import VitaMoonlight.Pages.HostRows
import Mathlib.Data.List.Nodup

/-! The tokens of the rows are distinct as long as no refresh hands one old row to two new ones.
-/

namespace VitaMoonlight

open Library

/-- The tokens of a row. -/
def HostRow.tokens (row : HostRow) : List UInt32 := [row.state.token, row.state.checkboxToken]

theorem HostRow.mem_tokens_iff (row : HostRow) {token : UInt32}
    : token ∈ row.tokens
      ↔ (row.state.token == token || row.state.checkboxToken == token) = true := by
  simp only [tokens, List.mem_cons, List.not_mem_nil, or_false, Bool.or_eq_true, beq_iff_eq,
    @eq_comm _ token]

namespace HostPage

/-- All tokens of the rows. -/
def tokens (page : HostPage) : List UInt32 := page.rows.flatMap HostRow.tokens

/-- The tokens at an index. -/
def tokensAt (page : HostPage) (idx : Nat) : List UInt32 :=
  (page.rows[idx]?).elim [] HostRow.tokens

/-- No token is zero and no two are equal. -/
structure TokensDistinct (page : HostPage) : Prop where
  nonzero : 0 ∉ page.tokens
  distinct : page.tokens.Nodup

/-- The old row whose state a new row takes over, tokens included. -/
def takenRow (page : HostPage) (host : MoonlightHost) (saved : Bool) : Option Nat :=
  (page.oldRow host).bind fun idx =>
    (page.rows[idx]?).bind fun old =>
      if saved = old.state.saved ∧ page.selectionMode = old.state.selectionTemplate then some idx
      else none

/-- The old rows that the listed hosts take over, the first host standing at an index. -/
def takenRows (page : HostPage) (savedCount index : Nat) (hosts : List MoonlightHost)
    : List Nat :=
  (hosts.zipIdx index).filterMap fun (host, idx) => page.takenRow host (idx < savedCount)

/-- No old row is taken over by two of the hosts that a refresh lists. -/
def TakenOnce (page : HostPage) : HostPageChoice → Prop
  | .refresh saved discovered =>
      ∀ savedCount hosts,
        page.readHostRows saved discovered = (some savedCount, some hosts)
        → (page.takenRows savedCount 0 hosts).Nodup
  | .setSelectionMode _ | .mark _ => True

-----------------------------------------------------------------------------------------
-- Distinct tokens
-----------------------------------------------------------------------------------------

variable {page : HostPage}

theorem tokensAt_subset (page : HostPage) (idx : Nat) : page.tokensAt idx ⊆ page.tokens := by
  intro token member
  unfold tokensAt at member
  cases stored : page.rows[idx]? with
  | none => simp [stored] at member
  | some row =>
      rw [stored] at member
      exact List.mem_flatMap.2 ⟨row, List.mem_of_getElem? stored, member⟩

/-- Rows at different indices share no token. -/
theorem TokensDistinct.disjoint (valid : page.TokensDistinct) {first second : Nat}
    (different : first ≠ second)
    : (page.tokensAt first).Disjoint (page.tokensAt second) := by
  have apart := List.pairwise_iff_getElem.1 (List.nodup_flatMap.1 valid.distinct).2
  unfold tokensAt
  cases one : page.rows[first]? with
  | none => exact List.disjoint_nil_left _
  | some row =>
      cases other : page.rows[second]? with
      | none => exact List.disjoint_nil_right _
      | some row' =>
          obtain ⟨inFirst, rfl⟩ := List.getElem?_eq_some_iff.1 one
          obtain ⟨inSecond, rfl⟩ := List.getElem?_eq_some_iff.1 other
          obtain before | after := Nat.lt_or_gt_of_ne different
          · exact apart first second inFirst inSecond before
          · exact fun _ here there => apart second first inSecond inFirst after there here

theorem TokensDistinct.nodup_tokensAt (valid : page.TokensDistinct) (idx : Nat)
    : (page.tokensAt idx).Nodup := by
  unfold tokensAt
  cases stored : page.rows[idx]? with
  | none => exact List.nodup_nil
  | some row =>
      exact (List.nodup_flatMap.1 valid.distinct).1 row (List.mem_of_getElem? stored)

/-- A token leads to the row that holds it. -/
theorem TokensDistinct.findHostIndex (valid : page.TokensDistinct) {idx : Nat} {row : HostRow}
    (stored : page.rows[idx]? = some row) {token : UInt32} (member : token ∈ row.tokens)
    : page.findHostIndex token = some idx := by
  obtain ⟨inside, rfl⟩ := List.getElem?_eq_some_iff.1 stored
  refine List.findIdx?_eq_some_iff_getElem.2 ⟨inside, ?_, fun other before here => ?_⟩
  · exact page.rows[idx].mem_tokens_iff.1 member
  · have inOther := Nat.lt_trans before inside
    have holds : token ∈ page.tokensAt other := by
      rw [tokensAt, List.getElem?_eq_getElem inOther]
      exact page.rows[other].mem_tokens_iff.2 here
    refine valid.disjoint (Nat.ne_of_lt before) holds ?_
    rw [tokensAt, stored]
    exact member

/-- The list of cells holds distinct tokens. -/
theorem TokensDistinct.nodup_cells (valid : page.TokensDistinct)
    : (page.rows.map fun row => row.state.token).Nodup := by
  have sublist : ∀ rows : List HostRow,
      (rows.map fun row => row.state.token).Sublist (rows.flatMap HostRow.tokens) := by
    intro rows
    induction rows with
    | nil => exact .slnil
    | cons row rest ih => exact (ih.cons row.state.checkboxToken).cons_cons row.state.token
  exact valid.distinct.sublist (sublist page.rows)

-----------------------------------------------------------------------------------------
-- Refreshing
-----------------------------------------------------------------------------------------

/-- A host that takes over a row gets its state. -/
theorem carriedRow_taken {host : MoonlightHost} {saved : Bool} {idx : Nat}
    (taken : page.takenRow host saved = some idx)
    : ∃ old, page.rows[idx]? = some old ∧ page.carriedRow host saved = old.state := by
  obtain ⟨found, search, taken⟩ := Option.bind_eq_some_iff.1 taken
  obtain ⟨old, stored, taken⟩ := Option.bind_eq_some_iff.1 taken
  split at taken
  · rename_i kind
    obtain rfl := Option.some.inj taken
    refine ⟨old, stored, ?_⟩
    simp only [carriedRow, search, Option.bind_some, stored]
    rw [if_pos kind]
  · contradiction

/-- A host that takes over no row has no tokens yet. -/
theorem carriedRow_untaken {host : MoonlightHost} {saved : Bool}
    (untaken : page.takenRow host saved = none)
    : (page.carriedRow host saved).token = 0 := by
  unfold carriedRow
  cases search : page.oldRow host with
  | none => rfl
  | some idx =>
      cases stored : page.rows[idx]? with
      | none =>
          simp only [Option.bind_some, stored]
      | some old =>
          simp only [Option.bind_some, stored]
          rw [takenRow, search, Option.bind_some, stored, Option.bind_some] at untaken
          split
          · rename_i kind
            rw [if_pos kind] at untaken
            contradiction
          · rfl

theorem toNat_nextToken {counter : UInt32} (room : counter.toNat + 1 < 2 ^ 32)
    : (nextToken counter).toNat = counter.toNat + 1 := by
  have next : (counter + 1).toNat = counter.toNat + 1 := by
    rw [UInt32.toNat_add]
    exact Nat.mod_eq_of_lt room
  have nonzero : counter + 1 ≠ 0 := by
    intro zero
    rw [zero] at next
    exact absurd next (by simp)
  rw [nextToken, if_neg nonzero, next]

/-- What a refresh issues are the numbers behind the counter, and the new rows hold them and the
tokens of the old rows that were taken over, by induction on the listed hosts.
-/
theorem refreshRows_tokens (valid : page.TokensDistinct) (savedCount : Nat)
    {hosts : List MoonlightHost} (index : Nat) {counter : UInt32}
    (room
      : counter.toNat + (page.refreshRows savedCount index counter hosts).issued.length < 2 ^ 32)
    : let refreshed := page.refreshRows savedCount index counter hosts
      refreshed.counter.toNat = counter.toNat + refreshed.issued.length
      ∧ refreshed.issued.map UInt32.toNat
        = List.range' (counter.toNat + 1) refreshed.issued.length
      ∧ (refreshed.rows.flatMap HostRow.tokens).Perm
          ((page.takenRows savedCount index hosts).flatMap page.tokensAt
            ++ refreshed.issued) := by
  induction hosts generalizing index counter with
  | nil => exact ⟨rfl, rfl, .refl _⟩
  | cons host rest ih =>
      simp only [refreshRows] at room ⊢
      cases taken : page.takenRow host (index < savedCount) with
      | some idx =>
          obtain ⟨old, stored, same⟩ := carriedRow_taken taken
          have nonzero : old.state.token ≠ 0 := by
            intro zero
            refine valid.nonzero (page.tokensAt_subset idx ?_)
            rw [tokensAt, stored, ← zero]
            exact List.mem_cons_self
          have given
              : giveTokens (page.carriedRow host (index < savedCount)) counter
                = { row := old.state, counter, issued := [] } := by
            rw [same, giveTokens, if_neg nonzero]
          rw [given] at room ⊢
          obtain ⟨next, numbers, order⟩ := ih (index + 1) room
          refine ⟨next, numbers, ?_⟩
          have rows : page.takenRows savedCount index (host :: rest)
              = idx :: page.takenRows savedCount (index + 1) rest := by
            simp [takenRows, taken]
          have here : page.tokensAt idx = [old.state.token, old.state.checkboxToken] := by
            rw [tokensAt, stored]
            rfl
          rw [rows, List.flatMap_cons, List.flatMap_cons, here, List.nil_append,
            List.append_assoc]
          exact order.append_left _
      | none =>
          have fresh := carriedRow_untaken taken
          rw [giveTokens, if_pos fresh] at room ⊢
          dsimp only at room ⊢
          rw [List.length_append] at room
          have first : (nextToken counter).toNat = counter.toNat + 1 :=
            toNat_nextToken (by simp at room; omega)
          have second : (nextToken (nextToken counter)).toNat = counter.toNat + 1 + 1 := by
            rw [toNat_nextToken (by rw [first]; simp at room; omega), first]
          obtain ⟨next, numbers, order⟩ := ih (index + 1) (by rw [second]; simp at room ⊢; omega)
          have rows : page.takenRows savedCount index (host :: rest)
              = page.takenRows savedCount (index + 1) rest := by
            simp [takenRows, taken]
          refine ⟨?_, ?_, ?_⟩
          · rw [next, second, List.length_append]
            simp
            omega
          · rw [List.map_append, numbers, second, List.length_append]
            simp [first, second, List.range'_succ, Nat.add_comm 2]
          · rw [rows, List.flatMap_cons]
            refine (order.append_left _).trans ?_
            rw [← List.append_assoc, ← List.append_assoc]
            exact List.perm_append_comm.append_right _

-----------------------------------------------------------------------------------------
-- Runs
-----------------------------------------------------------------------------------------

/-- The rows' tokens are distinct and none of them is behind the counter, which has counted the
tokens that were issued.
-/
structure Counted (page : HostPage) (trace : List UInt32) : Prop where
  valid : page.TokensDistinct
  below : ∀ token ∈ page.tokens, token.toNat ≤ trace.length
  counter : page.nextHostToken.toNat = trace.length

/-- Marks leave the tokens. -/
theorem tokens_mark (page : HostPage) (selected : Nat → Bool → Bool)
    : (page.mark selected).tokens = page.tokens := by
  have same : (page.mark selected).rows.map HostRow.tokens = page.rows.map HostRow.tokens := by
    refine List.ext_getElem (by simp [mark]) fun idx _ _ => ?_
    simp [mark, HostRow.tokens]
  rw [tokens, tokens, List.flatMap_def, List.flatMap_def, same]

theorem Counted.of_tokens {trace : List UInt32} {before after : HostPage}
    (counted : before.Counted trace) (tokens : after.tokens = before.tokens)
    (counter : after.nextHostToken = before.nextHostToken)
    : after.Counted trace where
  valid := ⟨tokens ▸ counted.valid.nonzero, tokens ▸ counted.valid.distinct⟩
  below := tokens ▸ counted.below
  counter := counter ▸ counted.counter

/-- A row that is taken over is there. -/
theorem mem_takenRows {savedCount index idx : Nat} {hosts : List MoonlightHost}
    (member : idx ∈ page.takenRows savedCount index hosts)
    : page.tokensAt idx ≠ [] := by
  obtain ⟨⟨host, at'⟩, -, taken⟩ := List.mem_filterMap.1 member
  obtain ⟨old, stored, -⟩ := carriedRow_taken taken
  rw [tokensAt, stored]
  exact List.cons_ne_nil _ _

/-- The tokens of the taken rows are distinct exactly when the rows are. -/
theorem TokensDistinct.nodup_flatMap_iff (valid : page.TokensDistinct) {taken : List Nat}
    (filled : ∀ idx ∈ taken, page.tokensAt idx ≠ [])
    : (taken.flatMap page.tokensAt).Nodup ↔ taken.Nodup := by
  rw [List.nodup_flatMap]
  constructor
  · rintro ⟨-, apart⟩
    refine apart.imp_of_mem fun {first second} inFirst _ disjoint same => ?_
    subst same
    obtain ⟨token, member⟩ := List.exists_mem_of_ne_nil _ (filled first inFirst)
    exact disjoint member member
  · intro distinct
    exact ⟨fun idx _ => valid.nodup_tokensAt idx,
      distinct.imp fun different => valid.disjoint different⟩

/-- After a refresh the tokens are distinct exactly when it takes over no old row twice. -/
theorem Counted.refresh {trace : List UInt32} (counted : page.Counted trace)
    {saved discovered : Option (List MoonlightHost)} {savedCount : Nat}
    {hosts : List MoonlightHost}
    (listed : page.readHostRows saved discovered = (some savedCount, some hosts))
    (room : (trace ++ (page.refreshHosts saved discovered).2).length < 2 ^ 32)
    : ((page.refreshHosts saved discovered).1.TokensDistinct
        ↔ (page.takenRows savedCount 0 hosts).Nodup)
      ∧ ((page.refreshHosts saved discovered).1.TokensDistinct
          → (page.refreshHosts saved discovered).1.Counted
              (trace ++ (page.refreshHosts saved discovered).2)) := by
  have spec := @refreshRows_tokens page counted.valid savedCount hosts 0 page.nextHostToken
  obtain ⟨refreshed, is⟩
      : ∃ refreshed, page.refreshRows savedCount 0 page.nextHostToken hosts = refreshed :=
    ⟨_, rfl⟩
  have result
      : page.refreshHosts saved discovered
        = ({ page with
              rows := refreshed.rows
              savedCount
              nextHostToken := refreshed.counter }, refreshed.issued) := by
    rw [refreshHosts, listed, ← is]
    rfl
  rw [result] at room ⊢
  dsimp only at room spec ⊢
  rw [List.length_append, ← counted.counter] at room
  rw [is] at spec
  obtain ⟨counter, numbers, order⟩ := spec room
  rw [counted.counter] at numbers counter
  have fresh
      : ∀ token ∈ refreshed.issued,
          trace.length < token.toNat
          ∧ token.toNat ≤ trace.length + refreshed.issued.length := by
    intro token member
    have number : token.toNat ∈ refreshed.issued.map UInt32.toNat :=
      List.mem_map.2 ⟨token, member, rfl⟩
    rw [numbers, List.mem_range'_1] at number
    omega
  have once : refreshed.issued.Nodup := by
    refine List.Nodup.of_map UInt32.toNat ?_
    rw [numbers]
    exact List.nodup_range'
  have carried
      : ∀ token ∈ (page.takenRows savedCount 0 hosts).flatMap page.tokensAt,
          token ∈ page.tokens := by
    intro token member
    obtain ⟨idx, -, member⟩ := List.mem_flatMap.1 member
    exact page.tokensAt_subset idx member
  have apart
      : ((page.takenRows savedCount 0 hosts).flatMap page.tokensAt).Disjoint refreshed.issued := by
    intro token old new
    exact absurd (counted.below token (carried token old)) (Nat.not_le.2 (fresh token new).1)
  have distinct
      : (refreshed.rows.flatMap HostRow.tokens).Nodup
        ↔ (page.takenRows savedCount 0 hosts).Nodup := by
    rw [order.nodup_iff, List.nodup_append',
      counted.valid.nodup_flatMap_iff fun _ member => mem_takenRows member]
    exact ⟨fun both => both.1, fun taken => ⟨taken, once, apart⟩⟩
  have held
      : ∀ token ∈ refreshed.rows.flatMap HostRow.tokens,
          token ∈ page.tokens ∨ token ∈ refreshed.issued := by
    intro token member
    exact (List.mem_append.1 (order.mem_iff.1 member)).imp_left (carried token)
  refine ⟨⟨fun valid => distinct.1 valid.distinct, fun taken => ⟨?_, distinct.2 taken⟩⟩, ?_⟩
  · intro zero
    obtain old | new := held 0 zero
    · exact counted.valid.nonzero old
    · exact absurd (fresh 0 new).1 (Nat.not_lt_zero _)
  · intro valid
    refine ⟨valid, fun token member => ?_, ?_⟩
    · rw [List.length_append]
      obtain old | new := held token member
      · exact Nat.le_add_right_of_le (counted.below token old)
      · exact (fresh token new).2
    · rw [List.length_append]
      exact counter

theorem readHostRows_saved {page : HostPage} {saved discovered : Option (List MoonlightHost)}
    {savedCount : Option Nat} {hosts : List MoonlightHost}
    (listed : page.readHostRows saved discovered = (savedCount, some hosts))
    : ∃ count, savedCount = some count := by
  unfold readHostRows at listed
  split at listed
  · exact absurd (Prod.ext_iff.1 listed).2 nofun
  · split at listed <;> exact ⟨_, (Prod.ext_iff.1 listed).1.symm⟩

/-- A refresh that takes over no old row twice keeps the count. -/
theorem Counted.refreshed {trace : List UInt32} (counted : page.Counted trace)
    {saved discovered : Option (List MoonlightHost)}
    (once : page.TakenOnce (.refresh saved discovered))
    (room : (trace ++ (page.refreshHosts saved discovered).2).length < 2 ^ 32)
    : (page.refreshHosts saved discovered).1.Counted
        (trace ++ (page.refreshHosts saved discovered).2) := by
  cases listed : page.readHostRows saved discovered with
  | mk savedCount hosts =>
      cases hosts with
      | none =>
          have result
              : page.refreshHosts saved discovered
                = ({ page with savedCount := savedCount.getD page.savedCount }, []) := by
            rw [refreshHosts, listed]
          rw [result, List.append_nil]
          exact counted.of_tokens rfl rfl
      | some hosts =>
          obtain ⟨count, rfl⟩ := readHostRows_saved listed
          obtain ⟨distinct, counts⟩ := counted.refresh listed room
          exact counts (distinct.2 (once count hosts listed))

end HostPage

/-- The rows are known by their tokens: no token is zero, no two are equal, and each leads to its
row.
-/
structure HostPage.Identified (page : HostPage) : Prop where
  tokens : page.TokensDistinct
  cells : (page.rows.map fun row => row.state.token).Nodup
  found
    : ∀ (idx : Nat) (row : HostRow),
        page.rows[idx]? = some row
        → ∀ token ∈ row.tokens, page.findHostIndex token = some idx

theorem HostPage.TokensDistinct.identified {page : HostPage} (valid : page.TokensDistinct)
    : page.Identified :=
  ⟨valid, valid.nodup_cells, fun _ _ stored _ member => valid.findHostIndex stored member⟩

/-- The rows keep distinct tokens as long as no refresh takes over an old row twice and fewer than
2^32 tokens were issued.
-/
theorem row_tokens_distinct {trace : List UInt32} {page : HostPage}
    (reached
      : hostPageMachine.ReachesWhen (fun _ page choice => page.TakenOnce choice) trace page)
    (few : trace.length < 2 ^ 32)
    : page.Identified := by
  have counted : trace.length < 2 ^ 32 → page.Counted trace := by
    refine reached.invariant (fun trace page => trace.length < 2 ^ 32 → page.Counted trace) ?_ ?_
    · rintro page rfl -
      exact ⟨⟨List.not_mem_nil, List.nodup_nil⟩, fun _ member => absurd member List.not_mem_nil, rfl⟩
    · intro trace page choice after emitted before once taken few
      have counted := before (by rw [List.length_append] at few; omega)
      cases choice with
      | refresh saved discovered =>
          obtain ⟨rfl, rfl⟩ := Prod.ext_iff.1 (Option.some.inj taken)
          exact counted.refreshed once few
      | setSelectionMode mode =>
          obtain ⟨rfl, rfl⟩ := Prod.ext_iff.1 (Option.some.inj taken)
          rw [List.append_nil]
          exact counted.of_tokens (page.tokens_mark fun _ _ => false) rfl
      | mark selected =>
          obtain ⟨rfl, rfl⟩ := Prod.ext_iff.1 (Option.some.inj taken)
          rw [List.append_nil]
          exact counted.of_tokens (page.tokens_mark _) rfl
  exact (counted few).valid.identified

/-- A PC with an address and no id. -/
def plainHost (internal external : String) : MoonlightHost where
  internal := .copy 256 (.ofLiteral internal)
  external := .copy 256 (.ofLiteral external)
  port := 47989

theorem HostPage.takenOnce_of_eq {page : HostPage} {saved discovered : Option (List MoonlightHost)}
    {savedCount : Nat} {hosts : List MoonlightHost}
    (listed : page.readHostRows saved discovered = (some savedCount, some hosts))
    (once : (page.takenRows savedCount 0 hosts).Nodup)
    : page.TakenOnce (.refresh saved discovered) := by
  intro count others again
  obtain ⟨counts, lists⟩ := Prod.ext_iff.1 (listed.symm.trans again)
  obtain rfl := Option.some.inj counts
  obtain rfl := Option.some.inj lists
  exact once

/-- A PC that keeps its row and one that gets a new row have distinct tokens. -/
theorem second_host_gets_tokens
    : ∃ trace page,
        hostPageMachine.ReachesWhen (fun _ page choice => page.TakenOnce choice) trace page
        ∧ trace.length = 4
        ∧ page.Identified := by
  have reached :=
    Machine.reachesWhen_run hostPageMachine (fun _ page choice => page.TakenOnce choice)
      (show hostPageMachine.initial {} from rfl)
      [.refresh (some [plainHost "10.0.0.5" ""]) (some []),
        .refresh (some [plainHost "10.0.0.5" "", plainHost "10.0.0.6" ""]) (some [])]
      (And.intro (HostPage.takenOnce_of_eq rfl (by decide +kernel))
        (And.intro (HostPage.takenOnce_of_eq rfl (by decide +kernel)) trivial))
      rfl
  exact ⟨_, _, reached, rfl, row_tokens_distinct reached (by decide)⟩

/-- Two PCs of which one has the internal and the other the external address of an old row share the
tokens of that row.
-/
theorem old_row_taken_twice
    : ¬ ∀ trace page,
          hostPageMachine.Reaches trace page → trace.length < 2 ^ 32 → page.Identified := by
  intro identified
  have reached :=
    Machine.reaches_run hostPageMachine (show hostPageMachine.initial {} from rfl)
      [.refresh (some [plainHost "10.0.0.5" ""]) (some []),
        .refresh (some [plainHost "10.0.0.5" "", plainHost "10.0.0.6" "10.0.0.5"]) (some [])] rfl
  exact absurd (identified _ _ reached (by decide)).cells (by decide +kernel)

end VitaMoonlight
