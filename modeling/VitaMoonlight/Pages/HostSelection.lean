import VitaMoonlight.Pages.HostRows

/-! The selection of PCs to delete (`pages/page_main.cpp`). Everything here runs on the main thread;
what the snapshots hold, what the dialog answers and whether a deletion succeeds is passed in.
-/

namespace VitaMoonlight

open Library

/-- What a refresh reads: a snapshot of the saved and of the discovered PCs, unless it fails. -/
structure HostSnapshots where
  saved : Option (List MoonlightHost)
  discovered : Option (List MoonlightHost)

/-- The members of `Main` that the selection depends on. -/
structure SelectionPage where
  page : HostPage := {}
  selectedCount : Nat := 0
  deleteDialogOpen : Bool := false
  connecting : Bool := false
  imeOpen : Bool := false
  imeRetryPending : Bool := false

/-- What the user sees and does, and the PCs that are deleted. -/
inductive SelectionLabel where
  | entered
  | left
  | marked (index : Nat) (selected : Bool)
  | markedAll (selected : Bool)
  | listed (hosts : List MoonlightHost)
  | asked
  | answered (confirmed : Bool)
  | deleted (host : MoonlightHost)
deriving DecidableEq

namespace SelectionPage

variable (main : SelectionPage)

/-- `Main::UpdateSelectionCount`. -/
def updateSelectionCount : SelectionPage :=
  { main with selectedCount := main.page.rows.countP fun row => row.state.selected }

/-- `Main::RefreshHosts`. -/
def refreshHosts (snapshots : HostSnapshots) : SelectionPage × List SelectionLabel :=
  if main.connecting then (main, [])
  else
    let page := (main.page.refreshHosts snapshots.saved snapshots.discovered).1
    match (main.page.readHostRows snapshots.saved snapshots.discovered).2 with
    | none => ({ main with page }, [])
    | some hosts =>
        let main := { main with page }
        (if page.selectionMode then main.updateSelectionCount else main, [.listed hosts])

/-- A mark of one row. -/
def markRow (index : Nat) (selected : Bool) : SelectionPage × List SelectionLabel :=
  let page := main.page.mark fun idx old => if idx = index then selected else old
  ({ main with page }.updateSelectionCount, [.marked index selected])

/-- `Main::ToggleHostSelection`. -/
def toggleHostSelection (index : Nat) : SelectionPage × List SelectionLabel :=
  match main.page.rows[index]? with
  | some row =>
      if main.page.selectionMode then main.markRow index (!row.state.selected) else (main, [])
  | none => (main, [])

/-- `Main::OnHostButton` in selection mode. -/
def onHostButton (token : UInt32) : SelectionPage × List SelectionLabel :=
  match main.page.findHostIndex token with
  | some index => main.toggleHostSelection index
  | none => (main, [])

/-- `Main::OnHostSelection`. -/
def onHostSelection (token : UInt32) (checked : Bool) : SelectionPage × List SelectionLabel :=
  if !main.page.selectionMode then (main, [])
  else
    match main.page.findHostIndex token with
    | none => (main, [])
    | some index =>
        match main.page.rows[index]? with
        | none => (main, [])
        | some row =>
            if row.state.selected ≠ checked then main.markRow index checked else (main, [])

/-- `Main::AllHostsSelected`. -/
def allHostsSelected : Bool :=
  0 < main.page.rows.length && main.page.rows.length ≤ main.selectedCount

/-- `Main::OnSelectionSelectAll` and `Main::ToggleSelectAll`. -/
def onSelectionSelectAll : SelectionPage × List SelectionLabel :=
  if main.deleteDialogOpen then (main, [])
  else if !main.page.selectionMode || main.page.rows.isEmpty then (main, [])
  else
    let select := !main.allHostsSelected
    ({ main with page := main.page.mark fun _ _ => select }.updateSelectionCount,
      [.markedAll select])

/-- `Main::EnterSelectionMode`. -/
def enterSelectionMode (snapshots : HostSnapshots) : SelectionPage × List SelectionLabel :=
  if main.connecting || main.imeOpen || main.imeRetryPending || main.page.savedCount = 0 then
    (main, [])
  else
    let (after, labels) :=
      { main with page := main.page.setSelectionMode true, selectedCount := 0 }.refreshHosts snapshots
    (after, .entered :: labels)

/-- `Main::ExitSelectionMode`. -/
def exitSelectionMode (snapshots : HostSnapshots) : SelectionPage × List SelectionLabel :=
  if !main.page.selectionMode then (main, [])
  else
    let (after, labels) :=
      { main with page := main.page.setSelectionMode false, selectedCount := 0 }.refreshHosts snapshots
    (after, .left :: labels)

/-- `Main::OnSelectionCancel`. -/
def onSelectionCancel (snapshots : HostSnapshots) : SelectionPage × List SelectionLabel :=
  if main.deleteDialogOpen then (main, []) else main.exitSelectionMode snapshots

/-- `Main::OnSelectionAction` and `Main::StartDeleteConfirmation`, with whether the dialog opens. -/
def onSelectionAction (opens : Bool) : SelectionPage × List SelectionLabel :=
  if main.deleteDialogOpen || main.selectedCount = 0 || !main.page.selectionMode then (main, [])
  else if opens then ({ main with deleteDialogOpen := true }, [.asked])
  else (main, [])

/-- `Main::DeleteSelectedHosts`. -/
def deleteSelectedHosts (snapshots : HostSnapshots) : SelectionPage × List SelectionLabel :=
  if main.selectedCount = 0 then (main, [])
  else
    let selected := main.page.rows.filter fun row => row.state.selected
    let (after, labels) := main.exitSelectionMode snapshots
    (after, selected.map (fun row => .deleted row.host) ++ labels)

/-- `Main::SelectionDialogPollTask`, once the dialog has finished with an answer. -/
def selectionDialogFinished (confirmed : Bool) (snapshots : HostSnapshots)
    : SelectionPage × List SelectionLabel :=
  if !main.deleteDialogOpen then (main, [])
  else
    let closed := { main with deleteDialogOpen := false }
    if confirmed then
      let (after, labels) := closed.deleteSelectedHosts snapshots
      (after, .answered true :: labels)
    else (closed, [.answered false])

end SelectionPage

/-- What the user, the system's dialogs and the events of the application do next. The last one is
what connections and the keyboard do to their flags.
-/
inductive SelectionChoice where
  | refresh (snapshots : HostSnapshots)
  | hostButton (token : UInt32)
  | hostSelection (token : UInt32) (checked : Bool)
  | selectAll
  | enter (snapshots : HostSnapshots)
  | cancel (snapshots : HostSnapshots)
  | action (opens : Bool)
  | finished (confirmed : Bool) (snapshots : HostSnapshots)
  | occupied (connecting imeOpen imeRetryPending : Bool)

def selectionStep (main : SelectionPage) : SelectionChoice → SelectionPage × List SelectionLabel
  | .refresh snapshots => main.refreshHosts snapshots
  | .hostButton token => main.onHostButton token
  | .hostSelection token checked => main.onHostSelection token checked
  | .selectAll => main.onSelectionSelectAll
  | .enter snapshots => main.enterSelectionMode snapshots
  | .cancel snapshots => main.onSelectionCancel snapshots
  | .action opens => main.onSelectionAction opens
  | .finished confirmed snapshots => main.selectionDialogFinished confirmed snapshots
  | .occupied connecting imeOpen imeRetryPending =>
      ({ main with connecting, imeOpen, imeRetryPending }, [])

def selectionMachine : Machine SelectionPage SelectionChoice SelectionLabel where
  initial main := main = {}
  step main choice := some (selectionStep main choice)

end VitaMoonlight
