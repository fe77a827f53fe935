import VitaMoonlight.Input.Touch

/-! What the host sees of the touch panel: each pointer goes down, moves and goes up in this
order, the left button is pressed and released in turn, and a stop leaves nothing down.
-/

namespace VitaMoonlight

open Library

-----------------------------------------------------------------------------------------
-- The history of a run
-----------------------------------------------------------------------------------------

/-- What the labels have shown: the channel in which each pointer is down (whether it is the
controller's), whether the left button is, the contacts of the frame before and of the last
frame with the pointers they were reported under, and the last frame.
-/
structure TouchHistory where
  held : Fin 8 → Option Bool := fun _ => none
  button : Bool := false
  previous : List (UInt8 × Fin 8) := []
  current : List (UInt8 × Fin 8) := []
  lastFrame : Option TouchFrame := none

namespace TouchHistory

/-- The history after one more label. -/
def observe (past : TouchHistory) : TouchLabel → TouchHistory
  | .frame frame =>
      { past with previous := past.current, current := [], lastFrame := some frame }
  | .contact hardwareId pointer =>
      { past with current := past.current ++ [(hardwareId, pointer)] }
  | .touch controller kind pointer _ _ _ =>
      let now :=
        match kind with
        | .down | .move => some controller
        | .up => none
      { past with held := Function.update past.held pointer now }
  | .cancelAll =>
      { past with
        held := fun pointer =>
          if past.held pointer = some false then none else past.held pointer }
  | .leftButton press => { past with button := press }
  | .released => { past with previous := past.current, current := [], lastFrame := none }
  | .mousePosition _ _ | .scroll _ | .stopped => past

/-- The label keeps to the protocol of pointers and buttons. -/
def KeepsProtocol (past : TouchHistory) : TouchLabel → Prop
  | .touch _ .down pointer _ _ _ => past.held pointer = none
  | .touch controller _ pointer _ _ _ => past.held pointer = some controller
  | .leftButton press => past.button ≠ press
  | .stopped => (∀ pointer, past.held pointer = none) ∧ past.button = false
  | .frame _ | .contact _ _ | .cancelAll | .mousePosition _ _ | .scroll _ | .released => True

end TouchHistory

/-- The history of a trace. -/
def touchHistory (trace : List TouchLabel) : TouchHistory :=
  trace.foldl TouchHistory.observe {}

/-- A label may follow a trace under the protocol. -/
def ProtocolAllowed (before : List TouchLabel) (label : TouchLabel) : Prop :=
  (touchHistory before).KeepsProtocol label

/-- A contact falls on a slot of `s_points`: its hardware id names it, or is out of range and
the slot is at the contact's place in the report.
-/
def TouchFrame.Falls (frame : TouchFrame) (i slot : Fin 8) : Prop :=
  (frame.report i).id.toNat = slot.val ∨ 8 ≤ (frame.report i).id.toNat ∧ i = slot

/-- No two contacts of the frame fall on one slot that is not down. -/
def TouchHistory.SeparatesNew (past : TouchHistory) : TouchLabel → Prop
  | .frame frame =>
      ∀ slot,
        past.held slot = none
        → ∀ i ∈ frame.contacts, ∀ j ∈ frame.contacts,
            frame.Falls i slot → frame.Falls j slot → i = j
  | _ => True

/-- Every frame of the trace separates the contacts that go down. -/
def SeparatesNew (before : List TouchLabel) (label : TouchLabel) : Prop :=
  (touchHistory before).SeparatesNew label

theorem TouchFrame.falls_iff (frame : TouchFrame) (i slot : Fin 8)
    : frame.Falls i slot ↔ frame.pointerId i = slot := by
  unfold Falls pointerId
  split
  · rename_i small
    constructor
    · rintro (named | ⟨large, -⟩)
      · exact Fin.ext named
      · omega
    · rintro rfl
      exact .inl rfl
  · rename_i large
    constructor
    · rintro (named | ⟨-, placed⟩)
      · exact absurd slot.isLt (by omega)
      · exact placed
    · rintro rfl
      exact .inr ⟨by omega, rfl⟩

theorem TouchFrame.nodup_contacts (frame : TouchFrame) : frame.contacts.Nodup :=
  (List.nodup_finRange 8).filter _

/-- A slot is sampled when some contact falls on it, by induction on the contacts. -/
theorem sampledPoints_active (frame : TouchFrame) (slot : Fin 8)
    : (VitaTouch.sampledPoints frame slot).active = true
      ↔ slot ∈ frame.contacts.map frame.pointerId := by
  have sampled
      : ∀ (contacts : List (Fin 8)) (sampled : Fin 8 → TouchPointState),
          (contacts.foldl
              (fun sampled i =>
                Function.update sampled (frame.pointerId i) ⟨true, frame.x i, frame.y i⟩)
              sampled slot).active
            = true
          ↔ slot ∈ contacts.map frame.pointerId ∨ (sampled slot).active = true := by
    intro contacts
    induction contacts with
    | nil => simp
    | cons i rest ih =>
        intro sampled
        rw [List.foldl_cons, ih, List.map_cons, List.mem_cons]
        by_cases here : slot = frame.pointerId i
        · simp [here]
        · simp [here]
  simpa [VitaTouch.sampledPoints] using sampled frame.contacts fun _ => {}

-----------------------------------------------------------------------------------------
-- What holds in every state
-----------------------------------------------------------------------------------------

/-- The host holds the pointers that are active, the contacts of the last frame, and the left
button if it is down; a stopped panel holds nothing.
-/
structure TouchConsistent (touch : VitaTouch) (past : TouchHistory) : Prop where
  held
    : ∀ slot, past.held slot = if (touch.points slot).active then some (touch.mode == 1) else none
  button : past.button = touch.leftMouseDown
  idle
    : touch.active = false
      → (∀ slot, (touch.points slot).active = false) ∧ touch.leftMouseDown = false
  begun : touch.initialized = false → touch.active = false
  pointing
    : touch.mode ≠ 1 → touch.mode ≠ 3 → ∀ slot, (touch.points slot).active = false
  contacts
    : past.current
      = match past.lastFrame with
        | none => []
        | some frame => frame.contacts.map fun i => ((frame.report i).id, frame.pointerId i)
  reported
    : ∀ slot, (touch.points slot).active = true ↔ ∃ hardwareId, (hardwareId, slot) ∈ past.current

variable {touch : VitaTouch} {past : TouchHistory}

/-- What a contact's events leave behind. -/
theorem observe_contact (frame : TouchFrame) (i : Fin 8)
    (held
      : (touch.points (frame.pointerId i)).active = true
        → past.held (frame.pointerId i) = some (touch.mode == 1))
    : (touch.contactLabels frame i).foldl TouchHistory.observe past
      = { past with
          held := Function.update past.held (frame.pointerId i) (some (touch.mode == 1))
          current := past.current ++ [((frame.report i).id, frame.pointerId i)] } := by
  unfold VitaTouch.contactLabels
  dsimp only
  split
  · rfl
  · rename_i down
    have active : (touch.points (frame.pointerId i)).active = true := by simpa using down
    split
    · rfl
    · simp only [List.foldl_cons, List.foldl_nil, TouchHistory.observe]
      rw [← held active, Function.update_eq_self]

/-- What the events of a list of contacts leave behind, by induction on the list. -/
theorem observe_contacts (frame : TouchFrame) (contacts : List (Fin 8))
    (held
      : ∀ slot, (touch.points slot).active = true → past.held slot = some (touch.mode == 1))
    : (contacts.flatMap (touch.contactLabels frame)).foldl TouchHistory.observe past
      = { past with
          held := fun slot =>
            if slot ∈ contacts.map frame.pointerId then some (touch.mode == 1)
            else past.held slot
          current :=
            past.current ++ contacts.map fun i => ((frame.report i).id, frame.pointerId i) } := by
  induction contacts generalizing past with
  | nil => simp
  | cons i rest ih =>
      rw [List.flatMap_cons, List.foldl_append, observe_contact frame i (held _), ih]
      · congr 1
        · funext slot
          by_cases here : slot = frame.pointerId i
          · simp [here]
          · simp [here]
        · simp
      · intro slot active
        by_cases here : slot = frame.pointerId i
        · simp [here]
        · simpa [here] using held slot active

/-- Contacts keep to the protocol when no two of them go down on one slot, by induction on the
list of contacts.
-/
theorem contacts_keep_protocol (frame : TouchFrame) (contacts : List (Fin 8))
    (held
      : ∀ slot, (touch.points slot).active = true → past.held slot = some (touch.mode == 1))
    (free
      : ∀ i ∈ contacts,
          (touch.points (frame.pointerId i)).active = false
          → past.held (frame.pointerId i) = none)
    (separate
      : contacts.Pairwise fun i j =>
          frame.pointerId i = frame.pointerId j
          → (touch.points (frame.pointerId i)).active = true)
    : AllPermitted TouchHistory.observe TouchHistory.KeepsProtocol past
        (contacts.flatMap (touch.contactLabels frame)) := by
  induction contacts generalizing past with
  | nil => trivial
  | cons i rest ih =>
      rw [List.pairwise_cons] at separate
      rw [List.flatMap_cons]
      refine .append ?_ ?_
      · unfold VitaTouch.contactLabels
        dsimp only
        split
        · rename_i up
          exact ⟨trivial, free i List.mem_cons_self (by simpa using up), trivial⟩
        · rename_i down
          have active : (touch.points (frame.pointerId i)).active = true := by simpa using down
          split
          · exact ⟨trivial, held _ active, trivial⟩
          · exact ⟨trivial, trivial⟩
      · rw [observe_contact frame i (held _)]
        refine ih ?_ ?_ separate.2
        · intro slot active
          by_cases here : slot = frame.pointerId i
          · simp [here]
          · simpa [here] using held slot active
        · intro j member inactive
          have apart : frame.pointerId j ≠ frame.pointerId i := by
            intro same
            have active := separate.1 j member same.symm
            rw [← same, inactive] at active
            contradiction
          simpa [apart] using free j (List.mem_cons_of_mem _ member) inactive

/-- Lifting the pointers that are not sampled keeps to the protocol and leaves the others alone,
by induction on a list of slots without repetition.
-/
theorem missing_keep_protocol (sampled : Fin 8 → TouchPointState) (slots : List (Fin 8))
    (past : TouchHistory)
    (distinct : slots.Nodup)
    (held
      : ∀ slot ∈ slots,
          (touch.points slot).active = true → past.held slot = some (touch.mode == 1))
    : AllPermitted TouchHistory.observe TouchHistory.KeepsProtocol past
          (slots.flatMap (touch.missingLabels sampled))
      ∧ (slots.flatMap (touch.missingLabels sampled)).foldl TouchHistory.observe past
        = { past with
            held := fun slot =>
              if slot ∈ slots ∧ (touch.points slot).active = true ∧ (sampled slot).active = false
              then none
              else past.held slot } := by
  induction slots generalizing past with
  | nil => exact ⟨trivial, by simp⟩
  | cons slot rest ih =>
      rw [List.nodup_cons] at distinct
      rw [List.flatMap_cons]
      by_cases missing : (touch.points slot).active = true ∧ (sampled slot).active = false
      · have shown
            : touch.missingLabels sampled slot
              = [touch.sendTouchEvent .up slot (touch.points slot).x (touch.points slot).y 0] := by
          simp [VitaTouch.missingLabels, missing]
        have lifted
            : [touch.sendTouchEvent .up slot (touch.points slot).x (touch.points slot).y 0].foldl
                TouchHistory.observe past
              = { past with held := Function.update past.held slot none } := rfl
        have others
            : ∀ other ∈ rest,
                (touch.points other).active = true
                → Function.update past.held slot none other = some (touch.mode == 1) := by
          intro other member active
          have apart : other ≠ slot := by
            rintro rfl
            exact distinct.1 member
          simpa [apart] using held other (List.mem_cons_of_mem _ member) active
        obtain ⟨permitted, same⟩ :=
          ih { past with held := Function.update past.held slot none } distinct.2 others
        rw [shown]
        constructor
        · refine .append ⟨held slot List.mem_cons_self missing.1, trivial⟩ ?_
          rw [lifted]
          exact permitted
        · rw [List.foldl_append, lifted, same]
          congr 1
          funext other
          by_cases here : other = slot
          · subst here
            simp [missing]
          · simp [here]
      · have shown : touch.missingLabels sampled slot = [] := by
          unfold VitaTouch.missingLabels
          rw [if_neg]
          simpa using missing
        obtain ⟨permitted, same⟩ :=
          ih past distinct.2 fun other member =>
            held other (List.mem_cons_of_mem _ member)
        rw [shown, List.nil_append]
        refine ⟨permitted, same.trans ?_⟩
        congr 1
        funext other
        by_cases here : other = slot
        · subst here
          simp [missing, distinct.1]
        · simp [here]

-----------------------------------------------------------------------------------------
-- The operations
-----------------------------------------------------------------------------------------

/-- The release of the left button keeps to the protocol. -/
theorem leftMouse_released (past : TouchHistory) (same : past.button = touch.leftMouseDown)
    : AllPermitted TouchHistory.observe TouchHistory.KeepsProtocol past touch.releaseLeftMouse
      ∧ touch.releaseLeftMouse.foldl TouchHistory.observe past
        = { past with button := false } := by
  unfold VitaTouch.releaseLeftMouse
  split
  · rename_i pressed
    exact ⟨⟨by simp [TouchHistory.KeepsProtocol, same, pressed], trivial⟩, rfl⟩
  · rename_i up
    refine ⟨trivial, ?_⟩
    rw [List.foldl_nil, ← Bool.eq_false_iff.2 up, ← same]

/-- The release of the pointers keeps to the protocol and leaves none down. -/
theorem pointers_released (past : TouchHistory)
    (held
      : ∀ slot,
          past.held slot = if (touch.points slot).active then some (touch.mode == 1) else none)
    (pointing
      : touch.mode ≠ 1 → touch.mode ≠ 3 → ∀ slot, (touch.points slot).active = false)
    : AllPermitted TouchHistory.observe TouchHistory.KeepsProtocol past touch.releasePointers
      ∧ touch.releasePointers.foldl TouchHistory.observe past
        = { past with held := fun _ => none } := by
  unfold VitaTouch.releasePointers
  split
  · have missing
        : (fun i =>
            if (touch.points i).active then
              [touch.sendTouchEvent .up i (touch.points i).x (touch.points i).y 0]
            else [])
          = touch.missingLabels fun _ => {} := by
      funext i
      simp [VitaTouch.missingLabels]
    rw [missing]
    have down
        : ∀ slot ∈ List.finRange 8,
            (touch.points slot).active = true → past.held slot = some (touch.mode == 1) := by
      intro slot _ active
      rw [held, if_pos active]
    obtain ⟨permitted, same⟩ :=
      missing_keep_protocol (fun _ => {}) (List.finRange 8) past (List.nodup_finRange 8) down
    refine ⟨permitted, same.trans ?_⟩
    congr 1
    funext slot
    simpa using fun inactive => by simp [held, inactive]
  · rename_i mouse
    split
    · refine ⟨⟨trivial, trivial⟩, ?_⟩
      simp only [List.foldl_cons, List.foldl_nil, TouchHistory.observe]
      congr 1
      funext slot
      rw [held]
      cases (touch.points slot).active <;> simp [mouse]
    · rename_i native
      refine ⟨trivial, ?_⟩
      rw [List.foldl_nil]
      have nothing : past.held = fun _ => none := by
        funext slot
        simp [held, pointing mouse native slot]
      rw [← nothing]

/-- A release of the whole panel keeps to the protocol and leaves nothing down. -/
theorem TouchConsistent.releaseTouchState (consistent : TouchConsistent touch past)
    : AllPermitted TouchHistory.observe TouchHistory.KeepsProtocol past touch.releaseTouchState.2
      ∧ touch.releaseTouchState.2.foldl TouchHistory.observe past
        = { previous := past.current } := by
  let began : TouchHistory :=
    { past with previous := past.current, current := [], lastFrame := none }
  obtain ⟨lifted, nothing⟩ := pointers_released began consistent.held consistent.pointing
  obtain ⟨released, after⟩ :=
    leftMouse_released { began with held := fun _ => none } consistent.button
  constructor
  · refine ⟨trivial, .append lifted ?_⟩
    change AllPermitted _ _ (touch.releasePointers.foldl TouchHistory.observe began) _
    rw [nothing]
    exact released
  · rw [← after, ← nothing, ← List.foldl_append]
    rfl

/-- What a frame of touch points leaves behind: its contacts, each under its pointer. -/
def TouchHistory.afterFrame (past : TouchHistory) (controller : Bool) (frame : TouchFrame)
    : TouchHistory :=
  { past with
    held := fun slot => if slot ∈ frame.contacts.map frame.pointerId then some controller else none
    previous := past.current
    current := frame.contacts.map fun i => ((frame.report i).id, frame.pointerId i)
    lastFrame := some frame }

/-- Lifting what a frame no longer shows keeps to the protocol and completes the frame. -/
theorem TouchConsistent.lifted (consistent : TouchConsistent touch past) (frame : TouchFrame)
    : AllPermitted TouchHistory.observe TouchHistory.KeepsProtocol
          ((frame.contacts.flatMap (touch.contactLabels frame)).foldl TouchHistory.observe
            (past.observe (.frame frame)))
          ((List.finRange 8).flatMap (touch.missingLabels (VitaTouch.sampledPoints frame)))
      ∧ (touch.processTouchPoints frame).2.foldl TouchHistory.observe past
        = past.afterFrame (touch.mode == 1) frame := by
  have down
      : ∀ slot,
          (touch.points slot).active = true
          → (past.observe (.frame frame)).held slot = some (touch.mode == 1) := by
    intro slot active
    rw [TouchHistory.observe, consistent.held, if_pos active]
  have contacts := observe_contacts frame frame.contacts down
  have still
      : ∀ slot ∈ List.finRange 8,
          (touch.points slot).active = true
          → ((frame.contacts.flatMap (touch.contactLabels frame)).foldl TouchHistory.observe
                (past.observe (.frame frame))).held slot
              = some (touch.mode == 1) := by
    intro slot _ active
    rw [contacts]
    simp [down slot active]
  obtain ⟨permitted, same⟩ :=
    missing_keep_protocol (VitaTouch.sampledPoints frame) (List.finRange 8) _
      (List.nodup_finRange 8) still
  refine ⟨permitted, ?_⟩
  unfold VitaTouch.processTouchPoints
  dsimp only
  rw [List.cons_append, List.foldl_cons, List.foldl_append, same, contacts]
  unfold TouchHistory.afterFrame
  congr 1
  funext slot
  have sampled := sampledPoints_active frame slot
  by_cases shown : slot ∈ frame.contacts.map frame.pointerId
  · simp [shown, sampled.2 shown]
  · have inactive : (VitaTouch.sampledPoints frame slot).active = false := by
      rw [Bool.eq_false_iff]
      exact fun active => shown (sampled.1 active)
    cases active : (touch.points slot).active with
    | true => simp [shown, inactive]
    | false => simp [shown, inactive, TouchHistory.observe, consistent.held, active]

/-- A frame keeps to the protocol when it separates the contacts that go down. -/
theorem TouchConsistent.frame_keeps_protocol (consistent : TouchConsistent touch past)
    (frame : TouchFrame) (separates : past.SeparatesNew (.frame frame))
    : AllPermitted TouchHistory.observe TouchHistory.KeepsProtocol past
        (touch.processTouchPoints frame).2 := by
  refine ⟨trivial, .append ?_ (consistent.lifted frame).1⟩
  refine contacts_keep_protocol frame frame.contacts ?_ ?_ ?_
  · intro slot active
    rw [TouchHistory.observe, consistent.held, if_pos active]
  · intro i _ inactive
    rw [TouchHistory.observe, consistent.held, inactive]
    rfl
  · refine frame.nodup_contacts.imp_of_mem ?_
    intro i j memberI memberJ apart same
    by_contra inactive
    have free : past.held (frame.pointerId i) = none := by
      rw [consistent.held, if_neg inactive]
    exact apart
      (separates _ free i memberI j memberJ ((frame.falls_iff i _).2 rfl)
        ((frame.falls_iff j _).2 same.symm))

/-- A list of moves and scrolls. -/
def Pointing (labels : List TouchLabel) : Prop :=
  ∀ label ∈ labels, (∃ x y, label = .mousePosition x y) ∨ ∃ amount, label = .scroll amount

/-- Moves and scrolls hold nothing, by induction on the list. -/
theorem Pointing.keeps_protocol {labels : List TouchLabel} (pointing : Pointing labels)
    (past : TouchHistory)
    : AllPermitted TouchHistory.observe TouchHistory.KeepsProtocol past labels
      ∧ labels.foldl TouchHistory.observe past = past := by
  induction labels with
  | nil => exact ⟨trivial, rfl⟩
  | cons label rest ih =>
      obtain ⟨permitted, same⟩ := ih fun later member =>
        pointing later (List.mem_cons_of_mem label member)
      obtain ⟨x, y, rfl⟩ | ⟨amount, rfl⟩ := pointing label List.mem_cons_self
      · exact ⟨⟨trivial, permitted⟩, same⟩
      · exact ⟨⟨trivial, permitted⟩, same⟩

theorem Pointing.scrollLabels (touch : VitaTouch) (delta : Int)
    : Pointing (touch.scrollLabels delta) := by
  unfold VitaTouch.scrollLabels Pointing
  dsimp only
  split <;> simp

/-- A frame in mouse mode moves, changes the left button if it has to, and scrolls. -/
theorem processAbsoluteMouse_labels (touch : VitaTouch) (frame : TouchFrame)
    : ∃ moved scrolled,
        Pointing moved ∧ Pointing scrolled
        ∧ (touch.processAbsoluteMouse frame).1.leftMouseDown = decide (frame.reportNum = 1)
        ∧ (touch.processAbsoluteMouse frame).2
          = moved
            ++ (if frame.reportNum = 1 then if touch.leftMouseDown then [] else [.leftButton true]
                else touch.releaseLeftMouse)
            ++ scrolled := by
  have none : Pointing [] := fun _ member => absurd member List.not_mem_nil
  have moved
      : Pointing
          (if frame.reportNum > 0 then [.mousePosition (frame.x 0) (frame.y 0)] else []) := by
    unfold Pointing
    split <;> simp
  unfold VitaTouch.processAbsoluteMouse
  dsimp only
  by_cases one : frame.reportNum = 1
  · refine ⟨_, [], moved, none, ?_⟩
    simp [one]
  · rw [if_neg one, if_neg one]
    split
    · split
      · exact ⟨_, _, moved, .scrollLabels _ _, by simp [one], rfl⟩
      · exact ⟨_, [], moved, none, by simp [one], by simp⟩
    · exact ⟨_, [], moved, none, by simp [one], by simp⟩

/-- A frame in mouse mode keeps to the protocol and holds nothing but the left button. -/
theorem TouchConsistent.mouse_keeps_protocol (consistent : TouchConsistent touch past)
    (frame : TouchFrame)
    : AllPermitted TouchHistory.observe TouchHistory.KeepsProtocol past
          (touch.processAbsoluteMouse frame).2
      ∧ (touch.processAbsoluteMouse frame).2.foldl TouchHistory.observe past
        = { past with button := (touch.processAbsoluteMouse frame).1.leftMouseDown } := by
  obtain ⟨moved, scrolled, moves, scrolls, down, shown⟩ := processAbsoluteMouse_labels touch frame
  have button
      : AllPermitted TouchHistory.observe TouchHistory.KeepsProtocol past
            (if frame.reportNum = 1 then if touch.leftMouseDown then [] else [.leftButton true]
              else touch.releaseLeftMouse)
        ∧ (if frame.reportNum = 1 then if touch.leftMouseDown then [] else [.leftButton true]
            else touch.releaseLeftMouse).foldl TouchHistory.observe past
          = { past with button := decide (frame.reportNum = 1) } := by
    by_cases one : frame.reportNum = 1
    · cases pressed : touch.leftMouseDown with
      | true =>
          have same : past.button = true := consistent.button.trans pressed
          refine ⟨by simp [one, AllPermitted], ?_⟩
          simp [one, ← same]
      | false =>
          have same : past.button = false := consistent.button.trans pressed
          refine ⟨?_, by simp [one, TouchHistory.observe]⟩
          simp [one, AllPermitted, TouchHistory.KeepsProtocol, same]
    · simpa [one] using leftMouse_released past consistent.button
  rw [shown, down]
  constructor
  · refine .append (.append (moves.keeps_protocol past).1 ?_) (scrolls.keeps_protocol _).1
    rw [(moves.keeps_protocol past).2]
    exact button.1
  · rw [List.foldl_append, List.foldl_append, (moves.keeps_protocol past).2, button.2,
      (scrolls.keeps_protocol _).2]

-----------------------------------------------------------------------------------------
-- One call
-----------------------------------------------------------------------------------------

/-- A panel that holds nothing is consistent with a history in which nothing is held. -/
theorem TouchConsistent.released (touch : VitaTouch)
    (begun : touch.initialized = false → touch.active = false)
    (up : ∀ slot, (touch.points slot).active = false) (lifted : touch.leftMouseDown = false)
    (previous : List (UInt8 × Fin 8))
    : TouchConsistent touch { previous } where
  held slot := by simp [up]
  button := lifted.symm
  idle _ := ⟨up, lifted⟩
  begun := begun
  pointing _ _ := up
  contacts := rfl
  reported slot := by simp [up]

/-- The first call of `vita_touch_init` clears what is clear already. -/
theorem TouchConsistent.init (consistent : TouchConsistent touch past)
    : TouchConsistent touch.init past := by
  unfold VitaTouch.init
  split
  · exact consistent
  · rename_i fresh
    have stopped := consistent.begun (by simpa using fresh)
    have up := (consistent.idle stopped).1
    exact
      { consistent with
        held := fun slot => by simpa [up] using consistent.held slot
        idle := fun _ => ⟨fun _ => rfl, (consistent.idle stopped).2⟩
        begun := fun _ => stopped
        pointing := fun _ _ _ => rfl
        reported := fun slot => by simpa [up] using consistent.reported slot }

/-- The mode changes only what pointers that are not down would be sent as. -/
theorem TouchConsistent.configure (consistent : TouchConsistent touch past)
    (stopped : touch.active = false) (mode : Int) (scale : Int → Int)
    : TouchConsistent (touch.configure mode scale) past := by
  have up := (consistent.idle stopped).1
  exact
    { consistent with
      held := fun slot => by simpa [VitaTouch.configure, up] using consistent.held slot
      pointing := fun _ _ => up }

theorem TouchConsistent.start (consistent : TouchConsistent touch past)
    : AllPermitted TouchHistory.observe TouchHistory.KeepsProtocol past touch.start.2
      ∧ TouchConsistent touch.start.1 (touch.start.2.foldl TouchHistory.observe past) := by
  obtain ⟨permitted, nothing⟩ := consistent.init.releaseTouchState
  refine ⟨permitted, ?_⟩
  change TouchConsistent _ (touch.init.releaseTouchState.2.foldl TouchHistory.observe past)
  rw [nothing]
  refine .released _ ?_ (fun _ => rfl) rfl _
  intro fresh
  change touch.init.initialized = false at fresh
  rw [VitaTouch.init_initialized] at fresh
  contradiction

/-- A stop leaves nothing down, whether or not it had something to release. -/
theorem TouchConsistent.stop (consistent : TouchConsistent touch past)
    : AllPermitted TouchHistory.observe TouchHistory.KeepsProtocol past touch.stop.2
      ∧ TouchConsistent touch.stop.1 (touch.stop.2.foldl TouchHistory.observe past) := by
  rw [VitaTouch.stop_labels, List.foldl_append]
  cases active : touch.active with
  | true =>
      obtain ⟨permitted, nothing⟩ := consistent.releaseTouchState
      simp only [if_true, nothing]
      constructor
      · refine .append permitted ?_
        rw [nothing]
        exact ⟨⟨fun _ => rfl, rfl⟩, trivial⟩
      · rw [VitaTouch.stop, if_pos active]
        exact .released _ (fun _ => rfl) (fun _ => rfl) rfl _
  | false =>
      obtain ⟨up, lifted⟩ := consistent.idle active
      refine ⟨⟨⟨fun pointer => ?_, ?_⟩, trivial⟩, ?_⟩
      · simp [consistent.held, up]
      · rw [consistent.button, lifted]
      · rw [VitaTouch.stop, if_neg (Bool.eq_false_iff.1 active)]
        exact consistent

/-- After a frame of touch points the host holds the pointers that the frame samples. -/
theorem TouchConsistent.afterFrame (consistent : TouchConsistent touch past)
    (active : touch.active = true) (mode : touch.mode = 1 ∨ touch.mode = 3) (frame : TouchFrame)
    : TouchConsistent (touch.processTouchPoints frame).1
        (past.afterFrame (touch.mode == 1) frame) where
  held slot := by
    simp only [TouchHistory.afterFrame, VitaTouch.processTouchPoints, sampledPoints_active]
  button := consistent.button
  idle stopped := by
    rw [show (touch.processTouchPoints frame).1.active = touch.active from rfl, active] at stopped
    contradiction
  begun := consistent.begun
  pointing points native := by
    cases mode with
    | inl pointing => exact absurd pointing points
    | inr pointing => exact absurd pointing native
  contacts := rfl
  reported slot := by
    rw [VitaTouch.processTouchPoints, sampledPoints_active, TouchHistory.afterFrame]
    simp

/-- A frame in mouse mode changes only what the mouse depends on. -/
theorem processAbsoluteMouse_keeps (touch : VitaTouch) (frame : TouchFrame)
    : (touch.processAbsoluteMouse frame).1
      = { touch with
          leftMouseDown := (touch.processAbsoluteMouse frame).1.leftMouseDown
          twoFingerActive := (touch.processAbsoluteMouse frame).1.twoFingerActive
          twoFingerLastY := (touch.processAbsoluteMouse frame).1.twoFingerLastY } := by
  unfold VitaTouch.processAbsoluteMouse
  dsimp only
  split
  · rfl
  · split
    · split <;> rfl
    · rfl

/-- After a frame in mouse mode the host holds the left button if one finger is down. -/
theorem TouchConsistent.afterMouse (consistent : TouchConsistent touch past)
    (active : touch.active = true) (frame : TouchFrame)
    : TouchConsistent (touch.processAbsoluteMouse frame).1
        { past with button := (touch.processAbsoluteMouse frame).1.leftMouseDown } := by
  rw [processAbsoluteMouse_keeps]
  exact
    { consistent with
      button := rfl
      idle := fun stopped => absurd (active.symm.trans stopped) Bool.true_eq_false.mp }

/-- A frame is sent as touch points, as the mouse, or not at all. -/
theorem process_cases (touch : VitaTouch) (frame : Option TouchFrame)
    : touch.process frame = (touch, [])
      ∨ touch.active = true
        ∧ ∃ points,
            frame = some points
            ∧ ((touch.mode = 1 ∨ touch.mode = 3)
                ∧ touch.process frame = touch.processTouchPoints points
              ∨ touch.mode = 2 ∧ touch.process frame = touch.processAbsoluteMouse points) := by
  by_cases off : !touch.active ∨ touch.mode = 0
  · exact .inl (if_pos off)
  have active : touch.active = true := by
    simpa using fun stopped => off (.inl stopped)
  cases frame with
  | none => exact .inl (if_neg off)
  | some points =>
      have same : touch.process (some points)
          = if touch.mode = 1 ∨ touch.mode = 3 then touch.processTouchPoints points
            else if touch.mode = 2 then touch.processAbsoluteMouse points
            else (touch, []) := if_neg off
      rw [same]
      by_cases pointers : touch.mode = 1 ∨ touch.mode = 3
      · exact .inr ⟨active, points, rfl, .inl ⟨pointers, if_pos pointers⟩⟩
      · rw [if_neg pointers]
        by_cases mouse : touch.mode = 2
        · exact .inr ⟨active, points, rfl, .inr ⟨mouse, if_pos mouse⟩⟩
        · exact .inl (if_neg mouse)

theorem process_active (touch : VitaTouch) (frame : Option TouchFrame)
    : (touch.process frame).1.active = touch.active := by
  obtain same | ⟨-, points, -, ⟨-, same⟩ | ⟨-, same⟩⟩ := process_cases touch frame
  · rw [same]
  · rw [same]
    rfl
  · rw [same, processAbsoluteMouse_keeps]

theorem TouchConsistent.process (consistent : TouchConsistent touch past)
    (frame : Option TouchFrame)
    : TouchConsistent (touch.process frame).1
        ((touch.process frame).2.foldl TouchHistory.observe past) := by
  obtain same | ⟨active, points, -, ⟨mode, same⟩ | ⟨-, same⟩⟩ := process_cases touch frame
  · rw [same]
    exact consistent
  · rw [same, (consistent.lifted points).2]
    exact consistent.afterFrame active mode points
  · rw [same, (consistent.mouse_keeps_protocol points).2]
    exact consistent.afterMouse active points

/-- Processing keeps to the protocol when the frame separates the contacts that go down. -/
theorem TouchConsistent.process_keeps_protocol (consistent : TouchConsistent touch past)
    (frame : Option TouchFrame)
    (separates
      : AllPermitted TouchHistory.observe TouchHistory.SeparatesNew past (touch.process frame).2)
    : AllPermitted TouchHistory.observe TouchHistory.KeepsProtocol past
        (touch.process frame).2 := by
  obtain same | ⟨-, points, -, ⟨-, same⟩ | ⟨-, same⟩⟩ := process_cases touch frame
  · rw [same]
    trivial
  · rw [same] at separates ⊢
    exact consistent.frame_keeps_protocol points separates.1
  · rw [same]
    exact (consistent.mouse_keeps_protocol points).1

/-- Every call keeps the panel consistent, and keeps to the protocol when the frame it
processes separates the contacts that go down.
-/
theorem TouchConsistent.step {choice : TouchChoice} {after : VitaTouch}
    {emitted : List TouchLabel} (consistent : TouchConsistent touch past)
    (taken : touchStep touch choice = some (after, emitted))
    : TouchConsistent after (emitted.foldl TouchHistory.observe past)
      ∧ (AllPermitted TouchHistory.observe TouchHistory.SeparatesNew past emitted
        → AllPermitted TouchHistory.observe TouchHistory.KeepsProtocol past emitted) := by
  cases choice with
  | configure mode scale =>
      simp only [touchStep] at taken
      split at taken
      · contradiction
      · rename_i stopped
        cases taken
        exact ⟨consistent.configure (by simpa using stopped) mode scale, fun _ => trivial⟩
  | start =>
      cases taken
      exact ⟨consistent.start.2, fun _ => consistent.start.1⟩
  | stop =>
      obtain ⟨rfl, rfl⟩ := Prod.ext_iff.1 (Option.some.inj taken)
      exact ⟨consistent.stop.2, fun _ => consistent.stop.1⟩
  | process frame =>
      obtain ⟨rfl, rfl⟩ := Prod.ext_iff.1 (Option.some.inj taken)
      exact ⟨consistent.process frame, consistent.process_keeps_protocol frame⟩

-----------------------------------------------------------------------------------------
-- Runs
-----------------------------------------------------------------------------------------

/-- What the host holds is what the panel has down, in every run. -/
theorem touch_consistent {trace : List TouchLabel} {touch : VitaTouch}
    (reached : touchMachine.Reaches trace touch)
    : TouchConsistent touch (touchHistory trace) := by
  refine reached.invariant (fun trace touch => TouchConsistent touch (touchHistory trace)) ?_ ?_
  · rintro touch ⟨scale, rfl⟩
    exact .released _ (fun _ => rfl) (fun _ => rfl) rfl []
  · intro trace touch choice after emitted consistent taken
    rw [touchHistory, List.foldl_append]
    exact (consistent.step taken).1

/-- Pointers go down, move and go up in this order, the left button is pressed and released in
turn, and a stop leaves nothing down, in every run whose frames separate the contacts that go
down. Witness: induction on the run, with the consistency of every state it passes.
-/
theorem touch_keeps_protocol {trace : List TouchLabel} {touch : VitaTouch}
    (reached : touchMachine.Reaches trace touch) (separates : Guarded SeparatesNew trace)
    : Guarded ProtocolAllowed trace := by
  induction reached with
  | start initial => exact .nil _
  | next before taken ih =>
      refine (ih separates.left).append (AllPermitted.allowedAfter ?_)
      exact
        ((touch_consistent before).step taken).2 (.of_allowedAfter separates.allowedAfter)

/-- A frame with two contacts, by their hardware ids. -/
def twoContacts (first second : UInt8) : TouchFrame where
  reportNum := 2
  report i := if i = 0 then ⟨first, 100, 100⟩ else if i = 1 then ⟨second, 500, 500⟩ else {}

instance (frame : TouchFrame) (i slot : Fin 8) : Decidable (frame.Falls i slot) :=
  inferInstanceAs (Decidable (_ ∨ _))

/-- What two fingers with the ids 3 and 7 show, from the start of the panel to its stop. -/
def twoFingerGesture : List TouchLabel :=
  [.released,
    .frame (twoContacts 3 7), .contact 3 3, .touch true .down 3 50 50 1,
    .contact 7 7, .touch true .down 7 250 250 1,
    .frame (twoContacts 7 3), .contact 7 7, .touch true .move 7 50 50 1,
    .contact 3 3, .touch true .move 3 250 250 1,
    .released, .touch true .up 3 250 250 0, .touch true .up 7 50 50 0, .stopped]

theorem twoFingerGesture_keeps_protocol
    : ∃ touch,
        touchMachine.Reaches twoFingerGesture touch
        ∧ Guarded SeparatesNew twoFingerGesture
        ∧ Guarded ProtocolAllowed twoFingerGesture := by
  have reached : touchMachine.Reaches twoFingerGesture _ :=
    touchMachine.reaches_run ⟨id, rfl⟩
      [.configure 1 id, .start, .process (some (twoContacts 3 7)),
        .process (some (twoContacts 7 3)), .stop] rfl
  have first
      : ∀ slot,
          ∀ i ∈ (twoContacts 3 7).contacts, ∀ j ∈ (twoContacts 3 7).contacts,
            (twoContacts 3 7).Falls i slot → (twoContacts 3 7).Falls j slot → i = j := by
    decide
  have second
      : ∀ slot,
          ∀ i ∈ (twoContacts 7 3).contacts, ∀ j ∈ (twoContacts 7 3).contacts,
            (twoContacts 7 3).Falls i slot → (twoContacts 7 3).Falls j slot → i = j := by
    decide
  have permitted
      : AllPermitted TouchHistory.observe TouchHistory.SeparatesNew
          (touchHistory []) twoFingerGesture := by
    refine ⟨trivial, fun slot _ => first slot, trivial, trivial, trivial, trivial,
      fun slot _ => second slot, ?_⟩
    repeat constructor
  have guarded : Guarded SeparatesNew twoFingerGesture :=
    (Guarded.nil _).append permitted.allowedAfter
  exact ⟨_, reached, guarded, touch_keeps_protocol reached guarded⟩

/-- The two contacts with hardware ids 8 and 0 both go down on pointer 0. -/
theorem shared_pointer_goes_down_twice
    : ¬ ∀ trace touch, touchMachine.Reaches trace touch → Guarded ProtocolAllowed trace := by
  intro always
  have reached :=
    touchMachine.reaches_run ⟨id, rfl⟩
      [.configure 1 id, .start, .process (some (twoContacts 8 0))] rfl
  have allowed : (some true : Option Bool) = none :=
    always _ _ reached
      [.released, .frame (twoContacts 8 0), .contact 8 0, .touch true .down 0 50 50 1, .contact 0 0]
      (.touch true .down 0 250 250 1) [] rfl
  contradiction

end VitaMoonlight
