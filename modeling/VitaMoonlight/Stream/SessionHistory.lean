import VitaMoonlight.Stream.Session

/-! A run of the stream machine, read session by session.
The history of a session is what its labels have shown so far; which labels may follow a
history is the contract that every session keeps.
-/

namespace VitaMoonlight

open Library

-----------------------------------------------------------------------------------------
-- The history of a session
-----------------------------------------------------------------------------------------

/-- What the labels of one session have shown. -/
structure SessionHistory where
  created : Bool := false
  exited : Bool := false
  stopped : Bool := false
  terminated : Bool := false
  stage : Bool := false
  ready : Bool := false
  committed : Bool := false
  returned : Option Int := none
  settled : Bool := false
  interrupts : Nat := 0
  libraryStops : Nat := 0
  started : Nat := 0
  finals : List StreamEvent := []
deriving DecidableEq

namespace SessionHistory

/-- The history after one more label. -/
def observe (past : SessionHistory) : StreamLabel → SessionHistory
  | .admitted _ | .notCreated _ | .libraryCalled _ => past
  | .created _ => { past with created := true }
  | .stageStarting _ => { past with stage := true }
  | .connectionStarted _ committed => { past with ready := true, committed }
  | .libraryReturned _ code => { past with returned := some code }
  | .settled _ => { past with settled := true }
  | .interrupt _ => { past with interrupts := past.interrupts + 1 }
  | .libraryStop _ => { past with libraryStops := past.libraryStops + 1 }
  | .event _ .started _ => { past with started := past.started + 1 }
  | .event _ event _ => { past with finals := past.finals ++ [event] }
  | .exited _ => { past with exited := true }
  | .stop _ => { past with stopped := true }
  | .terminated _ => { past with terminated := true }

/-- The session may publish this terminal event now. STOPPED needs a transport that came up
without an interrupt and a reason to end; FAILED means that no start was announced.
-/
def MayEndWith (past : SessionHistory) (event : StreamEvent) : Prop :=
  past.finals = []
  ∧ past.libraryStops = (if past.returned = some 0 then 1 else 0)
  ∧ match event with
    | .started => False
    | .stopped =>
        past.returned = some 0
        ∧ past.interrupts = 0
        ∧ (past.ready = true → past.started = 1)
        ∧ (past.stopped = true ∨ past.terminated = true)
    | .failed =>
        past.started = 0
        ∧ past.committed = false
        ∧ (past.returned = some 0 → past.interrupts = 1)

/-- The session has published its terminal event and stopped the transport it started. -/
def Ended (past : SessionHistory) : Prop :=
  past.finals.length = 1 ∧ past.libraryStops = (if past.returned = some 0 then 1 else 0)

/-- The session has no owner and will have none: it ended, or never got one. -/
def Over (past : SessionHistory) : Prop :=
  past.created = true ∧ past.exited = true ∧ past.Ended
  ∨ past = { stopped := past.stopped, terminated := past.terminated }

/-- The label may follow this history of its session. -/
def Permits (past : SessionHistory) : StreamLabel → Prop
  | .admitted _ => past = {}
  | .created _ | .notCreated _ => past.created = false
  | .libraryCalled _ => past.stage = false ∧ past.returned = none
  | .stageStarting _ | .libraryReturned _ _ => past.returned = none
  | .connectionStarted _ committed =>
      past.returned = none ∧ past.ready = false ∧ (committed = true ↔ past.stopped = false)
  | .settled _ => past.returned ≠ none ∧ past.settled = false
  | .interrupt _ =>
      past.stopped = true
      ∧ past.stage = true
      ∧ past.committed = false
      ∧ past.settled = false
      ∧ past.interrupts = 0
  | .libraryStop _ =>
      past.returned = some 0
      ∧ past.settled = true
      ∧ past.libraryStops = 0
      ∧ past.finals = []
  | .event _ .started _ =>
      past.committed = true ∧ past.started = 0 ∧ past.returned = none ∧ past.finals = []
  | .event _ event _ => past.MayEndWith event
  | .exited _ => past.finals.length = 1 ∧ past.exited = false
  | .stop _ | .terminated _ => past.exited = false

/-- The labels may follow one after the other. -/
def PermitsAll : SessionHistory → List StreamLabel → Prop
  | _, [] => True
  | past, label :: rest => past.Permits label ∧ (past.observe label).PermitsAll rest

end SessionHistory

/-- The history of a session in a trace. -/
def history (session : Nat) (trace : List StreamLabel) : SessionHistory :=
  trace.foldl
    (fun past label => if label.session = session then past.observe label else past) {}

@[simp] theorem history_nil (session : Nat) : history session [] = {} := rfl

theorem history_snoc_same {session : Nat} (trace : List StreamLabel) (label : StreamLabel)
    (same : label.session = session)
    : history session (trace ++ [label]) = (history session trace).observe label := by
  simp [history, same]

theorem history_snoc_other {session : Nat} (trace : List StreamLabel) (label : StreamLabel)
    (other : label.session ≠ session)
    : history session (trace ++ [label]) = history session trace := by
  simp [history, other]

/-- Labels of one session add up in its history, by induction on the labels. -/
theorem history_append_same {session : Nat} (trace : List StreamLabel)
    {labels : List StreamLabel} (same : ∀ label ∈ labels, label.session = session)
    : history session (trace ++ labels)
      = labels.foldl SessionHistory.observe (history session trace) := by
  induction labels generalizing trace with
  | nil => simp
  | cons label rest ih =>
      rw [List.append_cons, ih _ fun other member => same other (List.mem_cons_of_mem _ member),
        history_snoc_same trace label (same label List.mem_cons_self), List.foldl_cons]

/-- Labels of other sessions leave a history alone, by induction on the labels. -/
theorem history_append_other {session : Nat} (trace : List StreamLabel)
    {labels : List StreamLabel} (others : ∀ label ∈ labels, label.session ≠ session)
    : history session (trace ++ labels) = history session trace := by
  induction labels generalizing trace with
  | nil => simp
  | cons label rest ih =>
      rw [List.append_cons, ih _ fun other member => others other (List.mem_cons_of_mem _ member),
        history_snoc_other trace label (others label List.mem_cons_self)]

/-- A label may follow a trace: its session permits it, and a session is admitted only when
every earlier one is over.
-/
def StreamAllowed (before : List StreamLabel) (label : StreamLabel) : Prop :=
  (history label.session before).Permits label
  ∧ ∀ session,
      label = .admitted session → ∀ earlier < session, (history earlier before).Over

/-- Permitted labels of one session other than its admission may follow a trace. -/
theorem allowedAfter_of_permitsAll {session : Nat} {trace labels : List StreamLabel}
    (same : ∀ label ∈ labels, label.session = session)
    (not_admission : ∀ number, .admitted number ∉ labels)
    (permits : (history session trace).PermitsAll labels)
    : AllowedAfter StreamAllowed trace labels := by
  induction labels generalizing trace with
  | nil => trivial
  | cons label rest ih =>
      have first := same label List.mem_cons_self
      refine ⟨⟨by rw [first]; exact permits.1, ?_⟩, ih ?_ ?_ ?_⟩
      · rintro number rfl
        exact absurd List.mem_cons_self (not_admission number)
      · exact fun other member => same other (List.mem_cons_of_mem _ member)
      · exact fun number member => not_admission number (List.mem_cons_of_mem _ member)
      · rw [history_snoc_same trace label first]
        exact permits.2

end VitaMoonlight
