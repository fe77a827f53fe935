import VitaMoonlight.Library.KeptCalls
import VitaMoonlight.Pages.HostSelection
import VitaMoonlight.Pages.RowTokens

/-! Which PCs the page deletes: those that the user has marked since the selection began, and only once
the dialog was confirmed. A mark goes along with its PC when the list is read anew.
-/

namespace VitaMoonlight

open Library

-----------------------------------------------------------------------------------------
-- What the user sees
-----------------------------------------------------------------------------------------

/-- Whether a selection is under way, the listed PCs with their marks, whether the dialog is open and
whether it was confirmed just now.
-/
structure SelectionHistory where
  selecting : Bool := false
  marks : List (MoonlightHost × Bool) := []
  asking : Bool := false
  confirmed : Bool := false

namespace SelectionHistory

/-- Other marks for the listed PCs. -/
def marked (past : SelectionHistory) (select : Nat → Bool → Bool) : SelectionHistory :=
  { past with
    confirmed := false
    marks := past.marks.mapIdx fun idx mark => (mark.1, select idx mark.2) }

/-- A PC that is listed has a mark if one that it is taken for had it. -/
def observe (past : SelectionHistory) : SelectionLabel → SelectionHistory
  | .entered => { past.marked fun _ _ => false with selecting := true }
  | .left => { past.marked fun _ _ => false with selecting := false }
  | .marked index selected => past.marked fun idx old => if idx = index then selected else old
  | .markedAll selected => past.marked fun _ _ => selected
  | .listed hosts =>
      let marks :=
        hosts.map fun host =>
          (host, past.marks.any fun mark => mark.2 && sameDiscoveredHost host mark.1)
      { past with confirmed := false, marks }
  | .asked => { past with confirmed := false, asking := true }
  | .answered confirmed => { past with confirmed, asking := false }
  | .deleted _ => past

/-- The dialog asks during a selection with a mark, and not twice; it answers once; and a PC is deleted
if it has a mark and the dialog was confirmed just now.
-/
def Permits (past : SelectionHistory) : SelectionLabel → Prop
  | .asked => past.selecting = true ∧ past.asking = false ∧ ∃ mark ∈ past.marks, mark.2 = true
  | .answered _ => past.asking = true
  | .deleted host => past.selecting = true ∧ past.confirmed = true ∧ (host, true) ∈ past.marks
  | _ => True

end SelectionHistory

-----------------------------------------------------------------------------------------
-- What is kept
-----------------------------------------------------------------------------------------

/-- Each row is a listed PC, and is selected only with a mark. -/
def Covers (marks : List (MoonlightHost × Bool)) (rows : List HostRow) : Prop :=
  ∀ (idx : Nat) (row : HostRow),
    rows[idx]? = some row
    → ∃ mark : Bool, marks[idx]? = some (row.host, mark) ∧ (row.state.selected = true → mark = true)

/-- The rows that are selected. -/
def countSelected (rows : List HostRow) : Nat := rows.countP fun row => row.state.selected

/-- The page is as the user sees it; its count is the number of selected rows, and outside a selection
there are none.
-/
structure SelectionKept (past : SelectionHistory) (main : SelectionPage) : Prop where
  selecting : past.selecting = main.page.selectionMode
  asking : past.asking = main.deleteDialogOpen
  covers : Covers past.marks main.page.rows
  counted : main.selectedCount = countSelected main.page.rows
  resting : main.page.selectionMode = false → main.selectedCount = 0

abbrev SelectionCallKept (past : SelectionHistory) (outcome : SelectionPage × List SelectionLabel)
    : Prop :=
  CallKept SelectionHistory.observe SelectionHistory.Permits SelectionKept past outcome

-----------------------------------------------------------------------------------------
-- Rows
-----------------------------------------------------------------------------------------

/-- A row that is selected has a listed PC with a mark. -/
theorem Covers.of_mem {marks : List (MoonlightHost × Bool)} {rows : List HostRow} {row : HostRow}
    (covers : Covers marks rows) (member : row ∈ rows) (selected : row.state.selected = true)
    : (row.host, true) ∈ marks := by
  obtain ⟨idx, stored⟩ := List.mem_iff_getElem?.mp member
  obtain ⟨mark, listed, only⟩ := covers idx row stored
  rw [only selected] at listed
  exact List.mem_of_getElem? listed

/-- Setting marks on both sides alike. -/
theorem Covers.mark {marks : List (MoonlightHost × Bool)} {page : HostPage}
    (covers : Covers marks page.rows) (select : Nat → Bool → Bool)
    (monotone : ∀ idx, select idx false = true → select idx true = true)
    : Covers (marks.mapIdx fun idx mark => (mark.1, select idx mark.2)) (page.mark select).rows := by
  intro idx row stored
  rw [HostPage.mark, List.getElem?_mapIdx] at stored
  obtain ⟨old, there, rfl⟩ := Option.map_eq_some_iff.mp stored
  obtain ⟨mark, listed, only⟩ := covers idx old there
  refine ⟨select idx mark, by rw [List.getElem?_mapIdx, listed]; rfl, fun selected => ?_⟩
  dsimp only at selected
  cases state : old.state.selected with
  | true =>
      rw [state] at selected
      rwa [only state]
  | false =>
      rw [state] at selected
      cases mark with
      | true => exact monotone idx selected
      | false => exact selected

/-- Without a selected row none counts. -/
theorem countSelected_eq_zero {rows : List HostRow}
    : countSelected rows = 0 ↔ ∀ row ∈ rows, row.state.selected = false := by
  simp [countSelected, List.countP_eq_zero]

/-- A row that takes over a selection takes it from the row of a PC that it is taken for. -/
theorem carriedRow_selected {page : HostPage} {host : MoonlightHost} {saved : Bool}
    (selected : (page.carriedRow host saved).selected = true)
    : ∃ (idx : Nat) (old : HostRow),
        page.rows[idx]? = some old
        ∧ sameDiscoveredHost host old.host = true
        ∧ old.state.selected = true := by
  rw [HostPage.carriedRow] at selected
  cases found : page.oldRow host with
  | none =>
      rw [found] at selected
      cases selected
  | some idx =>
      have search : page.rows.findIdx? (fun row => sameDiscoveredHost host row.host) = some idx := found
      obtain ⟨inside, same, -⟩ := List.findIdx?_eq_some_iff_getElem.mp search
      rw [found, Option.bind_some, List.getElem?_eq_getElem inside] at selected
      refine ⟨idx, page.rows[idx], List.getElem?_eq_getElem inside, same, ?_⟩
      dsimp only at selected
      split at selected
      · exact selected
      · exact selected

/-- Tokens leave the selection alone. -/
theorem giveTokens_selected (row : HostRowState) (counter : UInt32)
    : (HostPage.giveTokens row counter).row.selected = row.selected := by
  rw [HostPage.giveTokens]
  split
  · rfl
  · rfl

/-- Each row of a refresh, by induction on the hosts. -/
theorem refreshRows_row {page : HostPage} {savedCount index : Nat} {counter : UInt32}
    {hosts : List MoonlightHost} {idx : Nat} {row : HostRow}
    (stored : (page.refreshRows savedCount index counter hosts).rows[idx]? = some row)
    : ∃ saved : Bool,
        hosts[idx]? = some row.host
        ∧ row.state.selected = (page.carriedRow row.host saved).selected := by
  induction hosts generalizing index counter idx with
  | nil => cases stored
  | cons host rest ih =>
      cases idx with
      | zero =>
          obtain rfl := Option.some.inj stored
          exact ⟨_, rfl, giveTokens_selected _ _⟩
      | succ idx => exact ih stored

/-- A row that is selected behind a refresh was selected before it, as a PC that it is taken for. -/
theorem refreshRows_selected {page : HostPage} {savedCount : Nat} {counter : UInt32}
    {hosts : List MoonlightHost} {row : HostRow}
    (member : row ∈ (page.refreshRows savedCount 0 counter hosts).rows)
    (selected : row.state.selected = true)
    : ∃ old ∈ page.rows, sameDiscoveredHost row.host old.host = true ∧ old.state.selected = true := by
  obtain ⟨idx, stored⟩ := List.mem_iff_getElem?.mp member
  obtain ⟨saved, -, carried⟩ := refreshRows_row stored
  obtain ⟨place, old, there, same, before⟩ := carriedRow_selected (carried.symm.trans selected)
  exact ⟨old, List.mem_of_getElem? there, same, before⟩

/-- The marks that a listing makes cover the rows that it makes. -/
theorem Covers.refresh {marks : List (MoonlightHost × Bool)} {page : HostPage}
    (covers : Covers marks page.rows) (savedCount : Nat) (counter : UInt32) (hosts : List MoonlightHost)
    : Covers
        (hosts.map fun host => (host, marks.any fun mark => mark.2 && sameDiscoveredHost host mark.1))
        (page.refreshRows savedCount 0 counter hosts).rows := by
  intro idx row stored
  obtain ⟨saved, listed, -⟩ := refreshRows_row stored
  refine ⟨_, by rw [List.getElem?_map, listed]; rfl, fun selected => ?_⟩
  obtain ⟨old, member, same, before⟩ := refreshRows_selected (List.mem_of_getElem? stored) selected
  exact List.any_eq_true.mpr ⟨_, covers.of_mem member before, by rw [same]; rfl⟩

/-- A refresh whose snapshots fail leaves the rows. -/
theorem refreshHosts_none {page : HostPage} {saved discovered : Option (List MoonlightHost)}
    (read : (page.readHostRows saved discovered).2 = none)
    : (page.refreshHosts saved discovered).1.rows = page.rows
      ∧ (page.refreshHosts saved discovered).1.selectionMode = page.selectionMode := by
  rw [HostPage.refreshHosts]
  cases listed : page.readHostRows saved discovered with
  | mk savedCount hosts =>
      rw [listed] at read
      obtain rfl : hosts = none := read
      exact ⟨rfl, rfl⟩

/-- A refresh makes its rows from the hosts that were read. -/
theorem refreshHosts_some {page : HostPage} {saved discovered : Option (List MoonlightHost)}
    {hosts : List MoonlightHost} (read : (page.readHostRows saved discovered).2 = some hosts)
    : (∃ savedCount,
        (page.refreshHosts saved discovered).1.rows
        = (page.refreshRows savedCount 0 page.nextHostToken hosts).rows)
      ∧ (page.refreshHosts saved discovered).1.selectionMode = page.selectionMode := by
  rw [HostPage.refreshHosts]
  cases listed : page.readHostRows saved discovered with
  | mk savedCount found =>
      rw [listed] at read
      obtain rfl : found = some hosts := read
      exact ⟨⟨_, rfl⟩, rfl⟩

-----------------------------------------------------------------------------------------
-- Calls
-----------------------------------------------------------------------------------------

namespace SelectionKept

variable {past : SelectionHistory} {main : SelectionPage}

/-- New marks during a selection. -/
theorem marked (kept : SelectionKept past main) (selecting : main.page.selectionMode = true)
    (select : Nat → Bool → Bool)
    (monotone : ∀ idx, select idx false = true → select idx true = true)
    : SelectionKept (past.marked select)
        { main with page := main.page.mark select }.updateSelectionCount where
  selecting := kept.selecting
  asking := kept.asking
  covers := kept.covers.mark select monotone
  counted := rfl
  resting idle := Bool.noConfusion (selecting.symm.trans idle)

/-- A selection begins and ends without marks. -/
theorem setSelectionMode (kept : SelectionKept past main) (selecting : Bool)
    : SelectionKept { past.marked fun _ _ => false with selecting }
        { main with page := main.page.setSelectionMode selecting, selectedCount := 0 } where
  selecting := rfl
  asking := kept.asking
  covers := kept.covers.mark (fun _ _ => false) fun _ => id
  counted := by
    refine (countSelected_eq_zero.mpr fun row member => ?_).symm
    obtain ⟨idx, inside, rfl⟩ := List.mem_mapIdx.mp member
    rfl
  resting _ := rfl

theorem refreshHosts (kept : SelectionKept past main) (snapshots : HostSnapshots)
    : SelectionCallKept past (main.refreshHosts snapshots) := by
  rw [SelectionPage.refreshHosts]
  split
  · exact .silent kept
  cases read : (main.page.readHostRows snapshots.saved snapshots.discovered).2 with
  | none =>
      obtain ⟨rows, mode⟩ := refreshHosts_none read
      exact
        .silent
          {
            selecting := kept.selecting.trans mode.symm
            asking := kept.asking
            covers := rows.symm ▸ kept.covers
            counted := rows.symm ▸ kept.counted
            resting := fun idle => kept.resting (mode.symm.trans idle)
          }
  | some hosts =>
      obtain ⟨⟨savedCount, rows⟩, mode⟩ := refreshHosts_some read
      refine .single trivial ?_
      have covers
          : Covers (past.observe (.listed hosts)).marks
              (main.page.refreshHosts snapshots.saved snapshots.discovered).1.rows :=
        rows.symm ▸ kept.covers.refresh savedCount _ hosts
      split
      · rename_i selecting
        exact
          {
            selecting := kept.selecting.trans mode.symm
            asking := kept.asking
            covers
            counted := rfl
            resting := fun idle => Bool.noConfusion (selecting.symm.trans idle)
          }
      · rename_i idle
        have still : main.page.selectionMode = false :=
          mode.symm.trans (Bool.eq_false_iff.mpr idle)
        have none : main.selectedCount = 0 := kept.resting still
        refine
          { selecting := kept.selecting.trans mode.symm, asking := kept.asking, covers,
            counted := ?_, resting := fun _ => none }
        refine none.trans (countSelected_eq_zero.mpr fun row member => ?_).symm
        -- A selected row would have been selected before the refresh.
        by_contra selected
        rw [rows] at member
        obtain ⟨old, before, -, marked⟩ :=
          refreshRows_selected member (Bool.not_eq_false _ ▸ selected)
        have unmarked := countSelected_eq_zero.mp (kept.counted.symm.trans none) old before
        exact Bool.noConfusion (marked.symm.trans unmarked)

theorem markRow (kept : SelectionKept past main) (selecting : main.page.selectionMode = true)
    (index : Nat) (selected : Bool)
    : SelectionCallKept past (main.markRow index selected) := by
  refine .single trivial (kept.marked selecting _ fun idx => ?_)
  split
  · exact id
  · exact fun _ => rfl

theorem onHostButton (kept : SelectionKept past main) (token : UInt32)
    : SelectionCallKept past (main.onHostButton token) := by
  rw [SelectionPage.onHostButton]
  split
  · rw [SelectionPage.toggleHostSelection]
    split
    · split
      · rename_i selecting
        exact kept.markRow selecting _ _
      · exact .silent kept
    · exact .silent kept
  · exact .silent kept

theorem onHostSelection (kept : SelectionKept past main) (token : UInt32) (checked : Bool)
    : SelectionCallKept past (main.onHostSelection token checked) := by
  rw [SelectionPage.onHostSelection]
  split
  · exact .silent kept
  · rename_i selecting
    split
    · exact .silent kept
    · split
      · exact .silent kept
      · split
        · exact kept.markRow (by simpa using selecting) _ _
        · exact .silent kept

theorem onSelectionSelectAll (kept : SelectionKept past main)
    : SelectionCallKept past main.onSelectionSelectAll := by
  rw [SelectionPage.onSelectionSelectAll]
  split
  · exact .silent kept
  · split
    · exact .silent kept
    · rename_i selecting
      rw [Bool.or_eq_true, not_or] at selecting
      exact
        .single trivial
          (kept.marked (by simpa using selecting.1) (fun _ _ => !main.allHostsSelected) fun _ => id)

theorem enterSelectionMode (kept : SelectionKept past main) (snapshots : HostSnapshots)
    : SelectionCallKept past (main.enterSelectionMode snapshots) := by
  rw [SelectionPage.enterSelectionMode]
  split
  · exact .silent kept
  · exact .precede trivial ((kept.setSelectionMode true).refreshHosts snapshots)

theorem exitSelectionMode (kept : SelectionKept past main) (snapshots : HostSnapshots)
    : SelectionCallKept past (main.exitSelectionMode snapshots) := by
  rw [SelectionPage.exitSelectionMode]
  split
  · exact .silent kept
  · exact .precede trivial ((kept.setSelectionMode false).refreshHosts snapshots)

theorem onSelectionAction (kept : SelectionKept past main) (opens : Bool)
    : SelectionCallKept past (main.onSelectionAction opens) := by
  rw [SelectionPage.onSelectionAction]
  split
  · exact .silent kept
  · rename_i asks
    split
    · simp only [Bool.or_eq_true, decide_eq_true_eq, Bool.not_eq_true', not_or, Bool.not_eq_true,
        Bool.not_eq_false] at asks
      obtain ⟨⟨unasked, some⟩, selecting⟩ := asks
      rw [kept.counted] at some
      obtain ⟨row, member, selected⟩ := List.countP_pos_iff.mp (Nat.pos_of_ne_zero some)
      have mark := kept.covers.of_mem member selected
      exact
        .single ⟨kept.selecting.trans selecting, kept.asking.trans unasked, _, mark, rfl⟩
          { kept with asking := rfl }
    · exact .silent kept

/-- The deletions of selected rows in front of the rest of a call, by induction on the rows. -/
theorem deleteRows (kept : SelectionKept past main) (selecting : past.selecting = true)
    (confirmed : past.confirmed = true) {rows : List HostRow}
    (chosen : ∀ row ∈ rows, row ∈ main.page.rows ∧ row.state.selected = true)
    {after : SelectionPage} {labels : List SelectionLabel}
    (rest : SelectionCallKept past (after, labels))
    : SelectionCallKept past (after, rows.map (fun row => .deleted row.host) ++ labels) := by
  induction rows with
  | nil => exact rest
  | cons row later ih =>
      obtain ⟨⟨member, selected⟩, chosen⟩ := List.forall_mem_cons.mp chosen
      exact .precede ⟨selecting, confirmed, kept.covers.of_mem member selected⟩ (ih chosen)

theorem deleteSelectedHosts (kept : SelectionKept past main) (confirmed : past.confirmed = true)
    (snapshots : HostSnapshots)
    : SelectionCallKept past (main.deleteSelectedHosts snapshots) := by
  rw [SelectionPage.deleteSelectedHosts]
  split
  · exact .silent kept
  · rename_i some
    have selecting : past.selecting = true := by
      rw [kept.selecting]
      by_contra idle
      exact some (kept.resting (Bool.eq_false_iff.mpr idle))
    refine kept.deleteRows selecting confirmed (fun row member => ?_)
      (kept.exitSelectionMode snapshots)
    exact List.mem_filter.mp member

theorem selectionDialogFinished (kept : SelectionKept past main) (confirmed : Bool)
    (snapshots : HostSnapshots)
    : SelectionCallKept past (main.selectionDialogFinished confirmed snapshots) := by
  rw [SelectionPage.selectionDialogFinished]
  split
  · exact .silent kept
  · rename_i opened
    have asking : past.asking = true := kept.asking.trans (by simpa using opened)
    have closed
        : SelectionKept (past.observe (.answered confirmed)) { main with deleteDialogOpen := false } :=
      { kept with asking := rfl }
    cases confirmed with
    | false => exact .single asking closed
    | true => exact .precede asking (closed.deleteSelectedHosts rfl snapshots)

theorem step (kept : SelectionKept past main) (choice : SelectionChoice)
    : SelectionCallKept past (selectionStep main choice) := by
  cases choice with
  | refresh snapshots => exact kept.refreshHosts snapshots
  | hostButton token => exact kept.onHostButton token
  | hostSelection token checked => exact kept.onHostSelection token checked
  | selectAll => exact kept.onSelectionSelectAll
  | enter snapshots => exact kept.enterSelectionMode snapshots
  | cancel snapshots =>
      rw [selectionStep, SelectionPage.onSelectionCancel]
      split
      · exact .silent kept
      · exact kept.exitSelectionMode snapshots
  | action opens => exact kept.onSelectionAction opens
  | finished confirmed snapshots => exact kept.selectionDialogFinished confirmed snapshots
  | occupied connecting imeOpen imeRetryPending => exact .silent { kept with }

end SelectionKept

-----------------------------------------------------------------------------------------
-- Runs
-----------------------------------------------------------------------------------------

/-- The history of a trace. -/
def selectionHistory (trace : List SelectionLabel) : SelectionHistory :=
  trace.foldl SelectionHistory.observe {}

/-- Over every order of presses, refreshes and answers, whatever the snapshots hold, only PCs with a
mark are deleted, each behind a confirmed dialog that asked during the selection with a mark, and the
count that decides whether the dialog may ask is the number of selected rows.
-/
theorem deletions_confirmed {trace : List SelectionLabel} {main : SelectionPage}
    (reached : selectionMachine.Reaches trace main)
    : Guarded (fun before label => (selectionHistory before).Permits label) trace
      ∧ main.selectedCount = countSelected main.page.rows := by
  obtain ⟨permitted, kept⟩ :=
    reached.keeps
      (fun main initial =>
        initial.symm ▸
          (⟨rfl, rfl, fun _ _ stored => (by cases stored), rfl, fun _ => rfl⟩ : SelectionKept {} {}))
      (fun past main choice outcome kept taken => Option.some.inj taken ▸ kept.step choice)
  exact ⟨permitted, kept.counted⟩

/-- Of two PCs one is marked, the dialog is declined, the list comes in another order, and the PC is
deleted once the dialog is confirmed.
-/
def oneDeleted : List SelectionLabel :=
  [
    .listed [plainHost "10.0.0.5" "", plainHost "10.0.0.6" ""], .entered,
    .listed [plainHost "10.0.0.5" "", plainHost "10.0.0.6" ""], .marked 1 true, .asked,
    .answered false, .listed [plainHost "10.0.0.6" "", plainHost "10.0.0.5" ""], .asked,
    .answered true, .deleted (plainHost "10.0.0.6" ""), .left, .listed [plainHost "10.0.0.5" ""]
  ]

theorem deletions_confirmed_oneDeleted
    : ∃ main : SelectionPage,
        Guarded (fun before label => (selectionHistory before).Permits label) oneDeleted
        ∧ main.selectedCount = countSelected main.page.rows := by
  let two : HostSnapshots := ⟨some [plainHost "10.0.0.5" "", plainHost "10.0.0.6" ""], some []⟩
  let turned : HostSnapshots := ⟨some [plainHost "10.0.0.6" "", plainHost "10.0.0.5" ""], some []⟩
  let one : HostSnapshots := ⟨some [plainHost "10.0.0.5" ""], some []⟩
  have ran
      : (selectionMachine.run {}
            [.refresh two, .enter two, .hostButton 7, .action true, .finished false two,
              .refresh turned, .action true, .finished true one]).map Prod.snd
        = some oneDeleted := by
    decide +kernel
  obtain ⟨⟨main, trace⟩, ran, same⟩ := Option.map_eq_some_iff.mp ran
  obtain rfl : trace = oneDeleted := same
  exact ⟨main, deletions_confirmed (selectionMachine.reaches_run rfl _ ran)⟩

end VitaMoonlight
