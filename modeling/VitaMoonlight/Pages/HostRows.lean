import VitaMoonlight.Types
import VitaMoonlight.Library.Machine

/-! The rows of the host page (`pages/page_main.cpp`): how a refresh lists the saved and discovered
PCs and gives each row the tokens by which its widgets are known.
-/

namespace VitaMoonlight

open Library

/-- `same_discovered_host`. -/
def sameDiscoveredHost (left right : MoonlightHost) : Bool :=
  if !left.hostId.isEmpty && !right.hostId.isEmpty then left.hostId == right.hostId
  else if !left.mac.isEmpty && !right.mac.isEmpty then left.mac == right.mac
  else if left.port != right.port then false
  else
    (!left.internal.isEmpty && !right.internal.isEmpty && left.internal == right.internal)
      || (!left.external.isEmpty && !right.internal.isEmpty && left.external == right.internal)
      || (!left.internal.isEmpty && !right.external.isEmpty && left.internal == right.external)

/-- One discovered PC in the loop of `Main::ReadHostRows`. -/
def listDiscovered (hosts : List MoonlightHost) (discovered : MoonlightHost)
    : List MoonlightHost :=
  if hosts.any (sameDiscoveredHost · discovered) then hosts else hosts ++ [discovered]

-----------------------------------------------------------------------------------------
-- Rows
-----------------------------------------------------------------------------------------

/-- `Main::HostRowState`. -/
structure HostRowState where
  saved : Bool := false
  selectionTemplate : Bool := false
  token : UInt32 := 0
  checkboxToken : UInt32 := 0
  selected : Bool := false
deriving DecidableEq

/-- A host and its row: one element of `m_hosts` and of `m_rows`. -/
structure HostRow where
  host : MoonlightHost
  state : HostRowState

/-- The members of `Main` that the rows depend on; `m_host_count` is the number of rows. -/
structure HostPage where
  rows : List HostRow := []
  savedCount : Nat := 0
  nextHostToken : UInt32 := 0
  selectionMode : Bool := false

namespace HostPage

/-- `Main::FindHostIndex`. -/
def findHostIndex (page : HostPage) (token : UInt32) : Option Nat :=
  page.rows.findIdx? fun row => row.state.token == token || row.state.checkboxToken == token

/-- `Main::ReadHostRows`: the number of saved hosts, unless their snapshot failed, and the listed
hosts, unless a snapshot failed.
-/
def readHostRows (page : HostPage) (saved discovered : Option (List MoonlightHost))
    : Option Nat × Option (List MoonlightHost) :=
  match saved with
  | none => (none, none)
  | some saved =>
      if page.selectionMode then (some saved.length, some saved)
      else (some saved.length, discovered.map fun found => found.foldl listDiscovered saved)

/-- The next token: `++m_next_host_token`, which passes over zero. -/
def nextToken (counter : UInt32) : UInt32 := if counter + 1 = 0 then counter + 1 + 1 else counter + 1

/-- The old row that the inner loop in `Main::RefreshHosts` stops at. -/
def oldRow (page : HostPage) (host : MoonlightHost) : Option Nat :=
  page.rows.findIdx? fun row => sameDiscoveredHost host row.host

/-- What the inner loop in `Main::RefreshHosts` makes of a row. -/
def carriedRow (page : HostPage) (host : MoonlightHost) (saved : Bool) : HostRowState :=
  let row : HostRowState := { saved, selectionTemplate := page.selectionMode }
  match (page.oldRow host).bind fun idx => page.rows[idx]? with
  | none => row
  | some old =>
      if saved = old.state.saved ∧ page.selectionMode = old.state.selectionTemplate then old.state
      else { row with selected := old.state.selected }

/-- A row, the token counter behind it and the tokens that were issued for it. -/
structure TokenedRow where
  row : HostRowState
  counter : UInt32
  issued : List UInt32

/-- The tokens for a row without one. -/
def giveTokens (row : HostRowState) (counter : UInt32) : TokenedRow :=
  if row.token = 0 then
    let token := nextToken counter
    let checkboxToken := nextToken token
    { row := { row with token, checkboxToken }
      counter := checkboxToken
      issued := [token, checkboxToken] }
  else { row, counter, issued := [] }

/-- New rows, the token counter behind them and the tokens that were issued for them. -/
structure RefreshedRows where
  rows : List HostRow
  counter : UInt32
  issued : List UInt32

/-- The outer loop in `Main::RefreshHosts`, from the host at an index on. -/
def refreshRows (page : HostPage) (savedCount : Nat) (index : Nat) (counter : UInt32)
    : List MoonlightHost → RefreshedRows
  | [] => ⟨[], counter, []⟩
  | host :: rest =>
      let given := giveTokens (page.carriedRow host (index < savedCount)) counter
      let later := page.refreshRows savedCount (index + 1) given.counter rest
      { rows := ⟨host, given.row⟩ :: later.rows
        counter := later.counter
        issued := given.issued ++ later.issued }

/-- `Main::RefreshHosts`, with the tokens that it issues. -/
def refreshHosts (page : HostPage) (saved discovered : Option (List MoonlightHost))
    : HostPage × List UInt32 :=
  match page.readHostRows saved discovered with
  | (savedCount, none) => ({ page with savedCount := savedCount.getD page.savedCount }, [])
  | (savedCount, some hosts) =>
      let savedCount := savedCount.getD page.savedCount
      let refreshed := page.refreshRows savedCount 0 page.nextHostToken hosts
      ({ page with rows := refreshed.rows, savedCount, nextHostToken := refreshed.counter },
        refreshed.issued)

/-- The rows with other selection marks. -/
def mark (page : HostPage) (selected : Nat → Bool → Bool) : HostPage :=
  { page with
    rows :=
      page.rows.mapIdx fun idx row =>
        { row with state := { row.state with selected := selected idx row.state.selected } } }

/-- The part of `Main::EnterSelectionMode` and `Main::ExitSelectionMode` about rows. -/
def setSelectionMode (page : HostPage) (selectionMode : Bool) : HostPage :=
  { page.mark (fun _ _ => false) with selectionMode }

end HostPage

/-- What happens to the rows: refreshes with any snapshots, selection mode, and marks that the user
sets on any rows.
-/
inductive HostPageChoice
  | refresh (saved discovered : Option (List MoonlightHost))
  | setSelectionMode (selectionMode : Bool)
  | mark (selected : Nat → Bool → Bool)

/-- The page's runs; a label is an issued token. -/
def hostPageMachine : Machine HostPage HostPageChoice UInt32 where
  initial page := page = {}
  step page choice :=
    match choice with
    | .refresh saved discovered => some (page.refreshHosts saved discovered)
    | .setSelectionMode selectionMode => some (page.setSelectionMode selectionMode, [])
    | .mark selected => some (page.mark selected, [])

end VitaMoonlight
