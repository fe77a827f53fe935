import VitaMoonlight.Pages.HostRows
import Mathlib.Data.List.InsertIdx
import Mathlib.Data.List.Perm.Basic

/-! The cells of the host list: `RefreshHosts` asks a planner for one edit at a time until the cells
show the wanted rows.
-/

namespace VitaMoonlight

open Library

/-- What `next_host_cell_edit` asks for: its results 1, 2 and 3 with `*from` and `*to`. -/
inductive HostCellEdit
  | delete (source : Nat)
  | move (source target : Nat)
  | insert (target : Nat)
deriving DecidableEq

/-- The first loop of `next_host_cell_edit`, which runs down from the cell before an index: a cell
whose token is not wanted.
-/
def obsoleteCell (current desired : List UInt32) : Nat → Option Nat
  | 0 => none
  | i + 1 =>
      if current[i]?.all fun token => desired.contains token then obsoleteCell current desired i
      else some i

/-- The first place that does not show its wanted token. -/
def misplacedCell (current desired : List UInt32) : Option Nat :=
  (List.range desired.length).find? fun i => current[i]? != desired[i]?

/-- The inner loop behind a misplaced cell: where its token stands further behind. -/
def laterCell (current desired : List UInt32) (i : Nat) : Option Nat :=
  ((current.drop (i + 1)).findIdx? fun token => some token == desired[i]?).map (· + (i + 1))

/-- `next_host_cell_edit`, `none` where it returns 0. -/
def nextHostCellEdit (current desired : List UInt32) : Option HostCellEdit :=
  match obsoleteCell current desired current.length with
  | some source => some (.delete source)
  | none =>
      (misplacedCell current desired).map fun target =>
        match laterCell current desired target with
        | some source => .move source target
        | none => .insert target

/-- An edit as `Main::RefreshHosts` carries it out on its copy of the cells. -/
def applyHostCellEdit (desired cells : List UInt32) : HostCellEdit → List UInt32
  | .delete source => cells.eraseIdx source
  | .move source target =>
      match cells[source]? with
      | some token => (cells.eraseIdx source).insertIdx target token
      | none => cells
  | .insert target =>
      match desired[target]? with
      | some token => cells.insertIdx target token
      | none => cells

/-- The token of the cell that an edit deletes, moves or inserts. -/
def editedToken (desired cells : List UInt32) : HostCellEdit → Option UInt32
  | .delete source | .move source _ => cells[source]?
  | .insert target => desired[target]?

/-- An edit and the token of its cell. -/
structure HostCellChange where
  edit : HostCellEdit
  token : Option UInt32
deriving DecidableEq

/-- The loop over the edits in `Main::RefreshHosts`. -/
def hostCellMachine (desired : List UInt32) : Machine (List UInt32) Unit HostCellChange where
  initial _ := True
  step cells _ :=
    (nextHostCellEdit cells desired).map fun edit =>
      (applyHostCellEdit desired cells edit, [⟨edit, editedToken desired cells edit⟩])

-----------------------------------------------------------------------------------------
-- What the planner finds
-----------------------------------------------------------------------------------------

variable {current desired cells : List UInt32}

/-- The cell that is not wanted is in the list, by induction on where the search begins. -/
theorem obsoleteCell_some {start source : Nat}
    (found : obsoleteCell cells desired start = some source)
    : ∃ token, cells[source]? = some token ∧ token ∉ desired := by
  induction start with
  | zero => contradiction
  | succ i ih =>
      unfold obsoleteCell at found
      split at found
      · exact ih found
      · rename_i obsolete
        obtain rfl := Option.some.inj found
        cases stored : cells[i]? with
        | none => simp [stored] at obsolete
        | some token => exact ⟨token, rfl, by simpa [stored] using obsolete⟩

theorem obsoleteCell_none {start : Nat} (none : obsoleteCell cells desired start = none)
    : ∀ i < start, ∀ token, cells[i]? = some token → token ∈ desired := by
  induction start with
  | zero => exact fun i before => absurd before (Nat.not_lt_zero i)
  | succ last ih =>
      unfold obsoleteCell at none
      split at none
      · rename_i wanted
        intro i before token stored
        obtain before | rfl := Nat.lt_succ_iff_lt_or_eq.1 before
        · exact ih none i before token stored
        · simpa [stored] using wanted
      · contradiction

/-- The cells up to an index show the wanted tokens. -/
def ShownUpTo (cells desired : List UInt32) (count : Nat) : Prop :=
  ∀ i < count, cells[i]? = desired[i]?

/-- How many cells show their wanted token before the first one that does not. -/
def shownCells (cells desired : List UInt32) : Nat :=
  (misplacedCell cells desired).getD desired.length

theorem misplacedCell_some {target : Nat} (found : misplacedCell cells desired = some target)
    : target < desired.length
      ∧ cells[target]? ≠ desired[target]?
      ∧ ShownUpTo cells desired target := by
  obtain ⟨different, inside, before⟩ := List.find?_range_eq_some.1 found
  refine ⟨List.mem_range.1 inside, by simpa using different, fun i earlier => ?_⟩
  simpa using before i earlier

theorem misplacedCell_none (none : misplacedCell cells desired = none)
    : ShownUpTo cells desired desired.length := by
  intro i inside
  simpa using List.find?_range_eq_none.1 none i inside

theorem le_shownCells {count : Nat} (shown : ShownUpTo cells desired count)
    (few : count ≤ desired.length)
    : count ≤ shownCells cells desired := by
  unfold shownCells
  cases found : misplacedCell cells desired with
  | none => exact few
  | some target =>
      by_contra more
      exact (misplacedCell_some found).2.1 (shown target (Nat.lt_of_not_le more))

theorem shownUpTo_shownCells (cells desired : List UInt32)
    : ShownUpTo cells desired (shownCells cells desired) := by
  unfold shownCells
  cases found : misplacedCell cells desired with
  | none => exact misplacedCell_none found
  | some target => exact (misplacedCell_some found).2.2

theorem shownCells_le (cells desired : List UInt32)
    : shownCells cells desired ≤ desired.length := by
  unfold shownCells
  cases found : misplacedCell cells desired with
  | none => exact Nat.le_refl _
  | some target => exact Nat.le_of_lt (misplacedCell_some found).1

/-- The token of a misplaced cell stands further behind. -/
theorem laterCell_some {target source : Nat} (found : laterCell cells desired target = some source)
    : target < source ∧ ∃ token, cells[source]? = some token ∧ desired[target]? = some token := by
  obtain ⟨offset, later, rfl⟩ := Option.map_eq_some_iff.1 found
  obtain ⟨inside, same, -⟩ := List.findIdx?_eq_some_iff_getElem.1 later
  refine ⟨by omega, _, ?_, (beq_iff_eq.1 same).symm⟩
  rw [Nat.add_comm, ← List.getElem?_drop]
  exact List.getElem?_eq_getElem inside

/-- A token that stands neither before a misplaced cell nor behind it stands nowhere. -/
theorem laterCell_none {target : Nat} (wanted : desired.Nodup) {token : UInt32}
    (here : desired[target]? = some token)
    (misplaced : misplacedCell cells desired = some target)
    (none : laterCell cells desired target = none)
    : token ∉ cells := by
  intro member
  obtain ⟨i, stored⟩ := List.mem_iff_getElem?.1 member
  obtain ⟨inside, different, shown⟩ := misplacedCell_some misplaced
  obtain before | rfl | behind := Nat.lt_trichotomy i target
  · have twice : desired[i]? = desired[target]? := by rw [← shown i before, stored, here]
    exact Nat.ne_of_lt before ((List.getElem?_inj (Nat.lt_trans before inside) wanted).1 twice)
  · exact different (stored.trans here.symm)
  · have absent := List.findIdx?_eq_none_iff.1 (Option.map_eq_none_iff.1 none) token ?_
    · rw [here] at absent
      simp at absent
    · refine List.mem_iff_getElem?.2 ⟨i - (target + 1), ?_⟩
      rw [List.getElem?_drop, Nat.add_sub_cancel' behind, stored]

-----------------------------------------------------------------------------------------
-- One edit
-----------------------------------------------------------------------------------------

/-- The cells on their way from the current to the desired tokens. -/
structure CellsOnTheWay (current desired cells : List UInt32) : Prop where
  distinct : cells.Nodup
  kept : ∀ token ∈ current, token ∈ desired → token ∈ cells

/-- How many cells are not wanted, and how many places still wait for their token. -/
def cellDistance (desired cells : List UInt32) : Nat :=
  cells.countP (fun token => !desired.contains token) + (desired.length - shownCells cells desired)

/-- Only obsolete tokens are deleted, and only new ones inserted. -/
def HostCellChange.Lawful (current desired : List UInt32) (change : HostCellChange) : Prop :=
  ∃ token,
    change.token = some token
    ∧ match change.edit with
      | .delete _ => token ∉ desired
      | .move _ _ => token ∈ desired
      | .insert _ => token ∈ desired ∧ token ∉ current

/-- Cells that show one more token are closer. -/
theorem cellDistance_lt {after : List UInt32} {target : Nat}
    (misplaced : misplacedCell cells desired = some target)
    (shown : ShownUpTo after desired (target + 1))
    (obsolete
      : after.countP (fun token => !desired.contains token)
        = cells.countP (fun token => !desired.contains token))
    : cellDistance desired after < cellDistance desired cells := by
  have inside := (misplacedCell_some misplaced).1
  have more := le_shownCells shown inside
  have now : shownCells cells desired = target := by
    rw [shownCells, misplaced]
    rfl
  unfold cellDistance
  omega

/-- Deleting an obsolete cell. -/
theorem CellsOnTheWay.delete (onTheWay : CellsOnTheWay current desired cells) {source : Nat}
    {token : UInt32} (stored : cells[source]? = some token) (obsolete : token ∉ desired)
    : CellsOnTheWay current desired (cells.eraseIdx source)
      ∧ cellDistance desired (cells.eraseIdx source) < cellDistance desired cells := by
  obtain ⟨inside, rfl⟩ := List.getElem?_eq_some_iff.1 stored
  have order := List.getElem_cons_eraseIdx_perm inside
  refine ⟨⟨onTheWay.distinct.sublist (List.eraseIdx_sublist cells source), ?_⟩, ?_⟩
  · intro other listed wanted
    obtain rfl | member := List.mem_cons.1 (order.mem_iff.2 (onTheWay.kept other listed wanted))
    · exact absurd wanted obsolete
    · exact member
  · have fewer := order.countP_eq fun token => !desired.contains token
    rw [List.countP_cons_of_pos (by simpa using obsolete)] at fewer
    have behind : shownCells cells desired ≤ source := by
      by_contra shown
      have here := shownUpTo_shownCells cells desired source (Nat.lt_of_not_le shown)
      exact obsolete (List.mem_of_getElem? (here.symm.trans stored))
    have kept : shownCells cells desired ≤ shownCells (cells.eraseIdx source) desired := by
      refine le_shownCells (fun i before => ?_) (shownCells_le cells desired)
      rw [List.getElem?_eraseIdx_of_lt (Nat.lt_of_lt_of_le before behind)]
      exact shownUpTo_shownCells cells desired i before
    unfold cellDistance
    omega

/-- The token of a misplaced cell is put into its place. -/
theorem ShownUpTo.insertIdx {target : Nat} {token : UInt32}
    (shown : ShownUpTo cells desired target) (here : desired[target]? = some token)
    (inside : target ≤ cells.length)
    : ShownUpTo (cells.insertIdx target token) desired (target + 1) := by
  intro i before
  obtain before | rfl := Nat.lt_succ_iff_lt_or_eq.1 before
  · rw [List.getElem?_insertIdx_of_lt before]
    exact shown i before
  · rw [List.getElem?_insertIdx_self, if_pos inside, here]

/-- Moving a cell to the place of its token. -/
theorem CellsOnTheWay.move (onTheWay : CellsOnTheWay current desired cells)
    {source target : Nat} {token : UInt32} (stored : cells[source]? = some token)
    (here : desired[target]? = some token) (behind : target < source)
    (misplaced : misplacedCell cells desired = some target)
    : CellsOnTheWay current desired ((cells.eraseIdx source).insertIdx target token)
      ∧ cellDistance desired ((cells.eraseIdx source).insertIdx target token)
        < cellDistance desired cells := by
  obtain ⟨inside, rfl⟩ := List.getElem?_eq_some_iff.1 stored
  have room : target ≤ (cells.eraseIdx source).length := by
    rw [List.length_eraseIdx_of_lt inside]
    omega
  have order : ((cells.eraseIdx source).insertIdx target cells[source]).Perm cells :=
    (List.perm_insertIdx _ _ room).trans (List.getElem_cons_eraseIdx_perm inside)
  refine ⟨⟨order.nodup_iff.2 onTheWay.distinct, ?_⟩, ?_⟩
  · intro other listed wanted
    exact order.mem_iff.2 (onTheWay.kept other listed wanted)
  · refine cellDistance_lt misplaced (ShownUpTo.insertIdx (fun i before => ?_) here room)
      (order.countP_eq _)
    rw [List.getElem?_eraseIdx_of_lt (Nat.lt_trans before behind)]
    exact (misplacedCell_some misplaced).2.2 i before

/-- Inserting a missing token into its place. -/
theorem CellsOnTheWay.insert (onTheWay : CellsOnTheWay current desired cells) {target : Nat}
    {token : UInt32} (here : desired[target]? = some token)
    (misplaced : misplacedCell cells desired = some target) (missing : token ∉ cells)
    : CellsOnTheWay current desired (cells.insertIdx target token)
      ∧ cellDistance desired (cells.insertIdx target token) < cellDistance desired cells := by
  obtain ⟨inside, -, shown⟩ := misplacedCell_some misplaced
  have room : target ≤ cells.length := by
    by_contra beyond
    have last := shown cells.length (Nat.lt_of_not_le beyond)
    rw [List.getElem?_eq_none (Nat.le_refl _), eq_comm, List.getElem?_eq_none_iff] at last
    omega
  have order := List.perm_insertIdx token cells room
  refine ⟨⟨order.nodup_iff.2 (List.nodup_cons.2 ⟨missing, onTheWay.distinct⟩), ?_⟩, ?_⟩
  · intro other listed wanted
    exact order.mem_iff.2 (List.mem_cons_of_mem _ (onTheWay.kept other listed wanted))
  · refine cellDistance_lt misplaced (shown.insertIdx here room) ?_
    rw [order.countP_eq, List.countP_cons_of_neg]
    simpa using List.mem_of_getElem? here

/-- One edit of the loop is lawful and brings the cells closer to the wanted ones. -/
theorem CellsOnTheWay.step (wanted : desired.Nodup)
    (onTheWay : CellsOnTheWay current desired cells) {after : List UInt32}
    {changes : List HostCellChange}
    (taken : (hostCellMachine desired).step cells () = some (after, changes))
    : CellsOnTheWay current desired after
      ∧ cellDistance desired after < cellDistance desired cells
      ∧ ∀ change ∈ changes, change.Lawful current desired := by
  obtain ⟨edit, planned, same⟩ := Option.map_eq_some_iff.1 taken
  obtain ⟨rfl, rfl⟩ := Prod.mk.inj same
  suffices closer
      : (CellsOnTheWay current desired (applyHostCellEdit desired cells edit)
          ∧ cellDistance desired (applyHostCellEdit desired cells edit)
            < cellDistance desired cells)
        ∧ (HostCellChange.mk edit (editedToken desired cells edit)).Lawful current desired by
    exact ⟨closer.1.1, closer.1.2, List.forall_mem_singleton.2 closer.2⟩
  unfold nextHostCellEdit at planned
  cases found : obsoleteCell cells desired cells.length with
  | some source =>
      rw [found] at planned
      obtain rfl := Option.some.inj planned
      obtain ⟨token, stored, obsolete⟩ := obsoleteCell_some found
      exact ⟨onTheWay.delete stored obsolete, token, stored, obsolete⟩
  | none =>
      rw [found] at planned
      obtain ⟨target, misplaced, rfl⟩ := Option.map_eq_some_iff.1 planned
      cases later : laterCell cells desired target with
      | some source =>
          obtain ⟨behind, token, stored, here⟩ := laterCell_some later
          simp only [applyHostCellEdit, stored]
          exact
            ⟨onTheWay.move stored here behind misplaced, token, stored,
              List.mem_of_getElem? here⟩
      | none =>
          obtain ⟨token, here⟩ : ∃ token, desired[target]? = some token :=
            ⟨_, List.getElem?_eq_getElem (misplacedCell_some misplaced).1⟩
          have missing := laterCell_none wanted here misplaced later
          simp only [applyHostCellEdit, here]
          exact
            ⟨onTheWay.insert here misplaced missing, token, here, List.mem_of_getElem? here,
              fun listed => missing (onTheWay.kept token listed (List.mem_of_getElem? here))⟩

/-- Cells that need no edit are the wanted ones. -/
theorem CellsOnTheWay.eq_of_rest (onTheWay : CellsOnTheWay current desired cells)
    (rest : (hostCellMachine desired).step cells () = none)
    : cells = desired := by
  have planned : nextHostCellEdit cells desired = none := Option.map_eq_none_iff.1 rest
  unfold nextHostCellEdit at planned
  cases found : obsoleteCell cells desired cells.length with
  | some source => simp [found] at planned
  | none =>
      rw [found] at planned
      have shown := misplacedCell_none (Option.map_eq_none_iff.1 planned)
      refine List.ext_getElem? fun i => ?_
      by_cases inside : i < desired.length
      · exact shown i inside
      · rw [List.getElem?_eq_none (Nat.le_of_not_lt inside)]
        cases stored : cells[i]? with
        | none => rfl
        | some token =>
            obtain ⟨within, -⟩ := List.getElem?_eq_some_iff.1 stored
            obtain ⟨j, early, same⟩ :=
              List.mem_iff_getElem.1 (obsoleteCell_none found i within token stored)
            have twice : cells[i]? = cells[j]? := by
              rw [stored, shown j early, List.getElem?_eq_getElem early, same]
            have := (List.getElem?_inj within onTheWay.distinct).1 twice
            omega

/-- The loop ends with the wanted cells. It deletes only tokens that are not wanted and inserts only
wanted tokens that were not there; a token that is both there and wanted is at most moved.
-/
theorem host_cell_edits_reach_target (distinct : current.Nodup) (wanted : desired.Nodup)
    : ∃ count changes,
        (hostCellMachine desired).run current (List.replicate count ()) = some (desired, changes)
        ∧ (hostCellMachine desired).step desired () = none
        ∧ (∀ change ∈ changes, change.Lawful current desired)
        ∧ ∀ token ∈ current,
            token ∈ desired
            → ∀ change ∈ changes,
                change.token = some token → ∃ source target, change.edit = .move source target := by
  obtain ⟨count, final, changes, -, ran, rest, onTheWay, lawful⟩ :=
    (hostCellMachine desired).exists_rest (cellDistance desired)
      (fun _ _ _ (onTheWay : CellsOnTheWay current desired _) taken =>
        onTheWay.step wanted taken)
      ⟨distinct, fun _ listed _ => listed⟩
  obtain rfl := onTheWay.eq_of_rest rest
  refine ⟨count, changes, ran, rest, lawful, ?_⟩
  rintro token listed shown ⟨edit, _⟩ member rfl
  obtain ⟨token, same, law⟩ := lawful _ member
  obtain rfl := Option.some.inj same
  cases edit with
  | delete source => exact absurd shown law
  | move source target => exact ⟨source, target, rfl⟩
  | insert target => exact absurd listed law.2

/-- One of three cells is replaced and another moved. -/
theorem three_cells_reach_target
    : ∃ count changes,
        (hostCellMachine [3, 1, 4]).run [1, 2, 3] (List.replicate count ())
          = some ([3, 1, 4], changes)
        ∧ (hostCellMachine [3, 1, 4]).step [3, 1, 4] () = none
        ∧ (∀ change ∈ changes, change.Lawful [1, 2, 3] [3, 1, 4])
        ∧ ∀ token ∈ [1, 2, 3],
            token ∈ [3, 1, 4]
            → ∀ change ∈ changes,
                change.token = some token → ∃ source target, change.edit = .move source target :=
  host_cell_edits_reach_target (by decide) (by decide)

end VitaMoonlight
