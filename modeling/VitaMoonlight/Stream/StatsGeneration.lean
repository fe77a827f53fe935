import VitaMoonlight.Stream.StatsWindows

/-! Generations keep the statistics of one session apart from late callbacks of others, and the
tokens handed to the renderers keep a session with statistics disabled from counting details.
-/

namespace VitaMoonlight.Stream

open Library

-----------------------------------------------------------------------------------------
-- Generations of a run
-----------------------------------------------------------------------------------------

/-- The generations that `moonlight_stats_begin` returned, in order. -/
def begunGenerations (trace : List StatsEvent) : List UInt32 :=
  trace.filterMap fun
    | .began generation _ _ => some generation
    | _ => none

/-- Some events begin no session. -/
def NoneBegins (events : List StatsEvent) : Prop :=
  ∀ generation settings startUs, StatsEvent.began generation settings startUs ∉ events

/-- Until the next session begins, the account keeps the generation of the last one, and once that
has ended it does not run again; by induction on the events from the last one.
-/
theorem account_until_next_begin {before after : List StatsEvent} {generation : UInt32}
    {settings : MoonlightSettings} {startUs : UInt64} (last : NoneBegins after)
    : (account (before ++ .began generation settings startUs :: after)).generation = generation
      ∧ (.ended generation ∈ after
        → (account (before ++ .began generation settings startUs :: after)).running = false) := by
  induction after using List.reverseRecOn with
  | nil =>
      unfold account
      rw [List.foldl_append]
      exact ⟨rfl, fun member => nomatch member⟩
  | append_singleton after event ih =>
      have earlier : NoneBegins after := fun generation settings startUs member =>
        last generation settings startUs (List.mem_append_left _ member)
      obtain ⟨same, stopped⟩ := ih earlier
      rw [← List.cons_append, ← List.append_assoc, account, List.foldl_append, List.foldl_cons,
        List.foldl_nil, ← account]
      generalize account (before ++ .began generation settings startUs :: after) = told
        at same stopped
      cases event with
      | began other _ _ => exact absurd (List.mem_append_right _ List.mem_cons_self) (last _ _ _)
      | ended other =>
          simp only [Account.observe]
          split_ifs with mine
          · exact ⟨same, fun _ => rfl⟩
          · refine ⟨same, fun member => stopped ?_⟩
            rcases List.mem_append.1 member with old | new
            · exact old
            · rw [List.mem_singleton, StatsEvent.ended.injEq] at new
              exact absurd (new.symm.trans same.symm) mine
      | updated other update now =>
          simp only [Account.observe]
          have old : ∀ member : StatsEvent.ended generation ∈ after ++ [.updated other update now],
              StatsEvent.ended generation ∈ after := by
            intro member
            simpa using member
          split_ifs
          · exact ⟨same, fun member => stopped (old member)⟩
          · exact ⟨same, fun member => stopped (old member)⟩
      | _ => exact ⟨same, fun member => stopped (by simpa using member)⟩

/-- An update that the account does not count leaves the statistics as they were. -/
theorem uncounted_update {trace : List StatsEvent} {state : StatsState}
    (reached : statsMachine.Reaches trace state) {generation : UInt32}
    (uncounted : ¬ ((account trace).running = true ∧ generation = (account trace).generation))
    (update : StatsUpdate) (now : UInt64)
    : update.apply state.stats generation now = state.stats := by
  have tracks := (reaches_describes reached).tracks
  obtain ⟨record, tagged, -⟩ := recorded_of_tagged update
  rw [tagged, taggedUpdate]
  rcases beginUpdate_cases state.stats generation now with ⟨refused, -⟩ | ⟨-, -, same, active⟩
  · rw [refused]
  · refine absurd ⟨?_, ?_⟩ uncounted
    · rw [tracks.running, active]
    · rw [tracks.generation, same]

/-- What an update does to the session besides counting. -/
theorem update_frame {trace : List StatsEvent} {state : StatsState}
    (reached : statsMachine.Reaches trace state) (generation : UInt32) (update : StatsUpdate)
    {now : UInt64} (later : state.clock ≤ now)
    : (update.apply state.stats generation now).session.generation
        = state.stats.session.generation
      ∧ (update.apply state.stats generation now).session.enabled
        = state.stats.session.enabled := by
  obtain ⟨record, tagged, recorded⟩ := recorded_of_tagged update
  rw [tagged, taggedUpdate]
  rcases beginUpdate_cases state.stats generation now with ⟨refused, -⟩ | ⟨accepted, -⟩
  · rw [refused]
    exact ⟨rfl, rfl⟩
  · rw [accepted]
    obtain ⟨advanced, -⟩ :=
      (reaches_describes reached).advance (UInt64.le_iff_toNat_le.1 later)
    have framed := (recorded _ _ advanced).framed
    have same := (advanceWindow_session state.stats now).1
    dsimp only
    rw [framed.generation, framed.enabled, same]
    exact ⟨rfl, rfl⟩

theorem moonlightStatsEnd_frame (stats : StreamStats) (generation : UInt32)
    : (moonlightStatsEnd stats generation).session.generation = stats.session.generation
      ∧ (moonlightStatsEnd stats generation).session.enabled = stats.session.enabled := by
  unfold moonlightStatsEnd
  split_ifs <;> exact ⟨rfl, rfl⟩

/-- A step either begins a session under the next generation, or keeps the session. -/
theorem step_generation {trace : List StatsEvent} {state after : StatsState}
    (reached : statsMachine.Reaches trace state) {call : StatsCall} {emitted : List StatsEvent}
    (taken : statsMachine.step state call = some (after, emitted))
    : (∃ settings now,
        call = .begin settings now
        ∧ emitted = [.began (nextGeneration state.stats.session.generation) settings now]
        ∧ after.stats
          = (moonlightStatsBegin state.stats settings now).1)
      ∨ NoneBegins emitted
        ∧ after.stats.session.generation = state.stats.session.generation
        ∧ after.stats.session.enabled = state.stats.session.enabled := by
  cases call with
  | begin settings now =>
      obtain ⟨rfl, rfl⟩ := Prod.ext_iff.1 (Option.some.inj taken)
      exact .inl ⟨settings, now, rfl, rfl, rfl⟩
  | finish generation =>
      obtain ⟨rfl, rfl⟩ := Prod.ext_iff.1 (Option.some.inj taken)
      refine .inr ⟨?_, moonlightStatsEnd_frame state.stats generation⟩
      simp [NoneBegins]
  | configureVideo format width height fps =>
      obtain ⟨rfl, rfl⟩ := Prod.ext_iff.1 (Option.some.inj taken)
      refine .inr ⟨?_, rfl, rfl⟩
      simp [NoneBegins]
  | configureAudio sampleRate channels =>
      obtain ⟨rfl, rfl⟩ := Prod.ext_iff.1 (Option.some.inj taken)
      refine .inr ⟨?_, rfl, rfl⟩
      simp [NoneBegins]
  | update generation update now =>
      simp only [statsMachine] at taken
      split_ifs at taken with ordered
      obtain ⟨rfl, rfl⟩ := Prod.ext_iff.1 (Option.some.inj taken)
      refine .inr ⟨?_, update_frame reached generation update ordered.1⟩
      simp [NoneBegins]
  | snapshot now =>
      simp only [statsMachine] at taken
      split_ifs at taken with ordered
      obtain ⟨rfl, rfl⟩ := Prod.ext_iff.1 (Option.some.inj taken)
      have same := (advanceWindow_session state.stats now).1
      refine .inr ⟨?_, congrArg _ same, congrArg _ same⟩
      simp [NoneBegins]

theorem begunGenerations_of_none {events : List StatsEvent} (quiet : NoneBegins events)
    : begunGenerations events = [] := by
  unfold begunGenerations
  rw [List.filterMap_eq_nil_iff]
  intro event member
  cases event with
  | began generation settings startUs => exact absurd member (quiet _ _ _)
  | _ => rfl

/-- The generations are the numbers that follow zero, one for each session, by induction on the
run.
-/
theorem begunGenerations_eq {trace : List StatsEvent} {state : StatsState}
    (reached : statsMachine.Reaches trace state)
    : state.stats.session.generation = nextGeneration^[(begunGenerations trace).length] 0
      ∧ begunGenerations trace
        = (List.range (begunGenerations trace).length).map
            fun turn => nextGeneration^[turn + 1] 0 := by
  induction reached with
  | start initial =>
      subst initial
      exact ⟨rfl, rfl⟩
  | next before taken ih =>
      rename_i earlier middle call after emitted
      obtain ⟨generation, begun⟩ := ih
      have split : begunGenerations (earlier ++ emitted)
          = begunGenerations earlier ++ begunGenerations emitted := List.filterMap_append
      rw [split]
      rcases step_generation before taken with ⟨settings, now, rfl, rfl, begins⟩ | ⟨quiet, same, -⟩
      · have one : begunGenerations
            [.began (nextGeneration middle.stats.session.generation) settings now]
            = [nextGeneration middle.stats.session.generation] := rfl
        rw [one, begins, List.length_append, List.length_singleton, List.range_succ,
          List.map_append, ← begun, Function.iterate_succ_apply', ← generation]
        exact ⟨rfl, by simp [Function.iterate_succ_apply', ← generation]⟩
      · rw [begunGenerations_of_none quiet, List.append_nil, same]
        exact ⟨generation, begun⟩

theorem begun_at {trace : List StatsEvent} {state : StatsState}
    (reached : statsMachine.Reaches trace state) {turn : Nat} {generation : UInt32}
    (begun : (begunGenerations trace)[turn]? = some generation)
    : generation = nextGeneration^[turn + 1] 0 := by
  rw [(begunGenerations_eq reached).2] at begun
  obtain ⟨bound, value⟩ := List.getElem?_eq_some_iff.1 begun
  rw [← value, List.getElem_map, List.getElem_range]

theorem begun_ne_zero {trace : List StatsEvent} {state : StatsState}
    (reached : statsMachine.Reaches trace state)
    : ∀ generation ∈ begunGenerations trace, generation ≠ 0 := by
  intro generation member
  obtain ⟨turn, begun⟩ := List.mem_iff_getElem?.1 member
  rw [begun_at reached begun, Function.iterate_succ_apply']
  exact nextGeneration_ne_zero _

/-- No generation comes back within 2^32 - 1 sessions. -/
theorem begun_distinct {trace : List StatsEvent} {state : StatsState}
    (reached : statsMachine.Reaches trace state) {first second : Nat} {left right : UInt32}
    (earlier : (begunGenerations trace)[first]? = some left)
    (later : (begunGenerations trace)[second]? = some right) (ordered : first < second)
    (near : second - first < 2 ^ 32 - 1)
    : left ≠ right := by
  intro same
  rw [begun_at reached earlier, begun_at reached later] at same
  have round := generation_returns (by omega) same.symm
  omega

-----------------------------------------------------------------------------------------
-- Tokens
-----------------------------------------------------------------------------------------

/-- Who holds a token: the connection status callback, the worker that polls the network, and
the renderers.
-/
inductive TokenKind
  | status
  | network
  | receive
  | video
  | audio
deriving DecidableEq

/-- Tokens for more than the received frames and the state of the connection. -/
def TokenKind.Detailed (kind : TokenKind) : Prop :=
  kind = .network ∨ kind = .video ∨ kind = .audio

def StatsUpdate.tokenKind : StatsUpdate → TokenKind
  | .connectionStatus _ => .status
  | .network _ _ _ => .network
  | .received _ _ _ _ _ _ _ => .receive
  | .decode _ _ _ _ | .idrReturn | .prepared _ _ _ _ _ | .queued _ | .presented _ _ => .video
  | .audioDecode _ _ | .audioOutput _ _ => .audio

/-- A token, and how many sessions had begun when it was handed out. -/
structure Token where
  kind : TokenKind
  session : Nat
  generation : UInt32
deriving DecidableEq

/-- The tokens handed out so far. Their holders may keep them for any time. -/
structure Handouts where
  sessions : Nat := 0
  tokens : List Token := []

/-- `begin` returns the token of the worker, which polls the network only when the settings show
statistics; the renderers are configured with their own.
-/
def Handouts.observe (handouts : Handouts) : StatsEvent → Handouts
  | .began generation settings _ =>
      { sessions := handouts.sessions + 1
        tokens :=
          (if settings.showFps ≠ 0 then [⟨.network, handouts.sessions + 1, generation⟩] else [])
            ++ ⟨.status, handouts.sessions + 1, generation⟩ :: handouts.tokens }
  | .videoConfigured receive detail =>
      { handouts with
        tokens :=
          ⟨.receive, handouts.sessions, receive⟩ :: ⟨.video, handouts.sessions, detail⟩
            :: handouts.tokens }
  | .audioConfigured detail =>
      { handouts with tokens := ⟨.audio, handouts.sessions, detail⟩ :: handouts.tokens }
  | .ended _ | .updated _ _ _ | .snapshotTaken _ => handouts

def handouts (trace : List StatsEvent) : Handouts := trace.foldl Handouts.observe {}

/-- Updates come with tokens that were handed out for them. -/
def Disciplined (trace : List StatsEvent) (_ : StatsState) : StatsCall → Prop
  | .update generation update _ =>
      ∃ token ∈ (handouts trace).tokens,
        token.kind = update.tokenKind ∧ token.generation = generation
  | _ => True

/-- Updates come with tokens that were handed out for them fewer than 2^32 - 1 sessions ago. -/
def DisciplinedSoon (trace : List StatsEvent) (_ : StatsState) : StatsCall → Prop
  | .update generation update _ =>
      ∃ token ∈ (handouts trace).tokens,
        token.kind = update.tokenKind ∧ token.generation = generation
        ∧ (handouts trace).sessions - token.session < 2 ^ 32 - 1
  | _ => True

-----------------------------------------------------------------------------------------
-- What a session without statistics counts
-----------------------------------------------------------------------------------------

/-- The receive counters of a bucket, all others at zero. -/
def Bucket.receiveOnly (bucket : Bucket) : Bucket where
  received := bucket.received
  bytes := bucket.bytes
  missing := bucket.missing

/-- The totals of a session besides the received and missing frames. -/
def MoonlightStreamStats.detailTotals (session : MoonlightStreamStats) : List UInt64 :=
  [session.pacerDrops, session.pendingReplacements, session.decodeErrors, session.idrReturns,
    session.idrFrames, session.noOutput, session.audioDecodeErrors, session.audioOutputErrors]

/-- Nothing but receive counters has counted. -/
structure CountsReceivedOnly (stats : StreamStats) : Prop where
  current : stats.current = stats.current.receiveOnly
  previous : stats.previous = stats.previous.receiveOnly
  totals : ∀ total ∈ stats.session.detailTotals, total = 0

theorem CountsReceivedOnly.advance {stats : StreamStats} (only : CountsReceivedOnly stats)
    (now : UInt64)
    : CountsReceivedOnly (advanceWindow stats now) := by
  unfold advanceWindow
  dsimp only
  split_ifs
  · exact only
  · exact ⟨rfl, only.current, only.totals⟩
  · exact ⟨rfl, rfl, only.totals⟩

/-- A received frame counts nothing else in a session without statistics. -/
theorem CountsReceivedOnly.received {stats : StreamStats} (only : CountsReceivedOnly stats)
    (frameNumber bytes : UInt32) (later : UInt64)
    : CountsReceivedOnly (noteFrameNumber (countReceived stats bytes later) frameNumber) := by
  have current := only.current
  refine ⟨?_, ?_, ?_⟩
  · unfold noteFrameNumber countReceived
    dsimp only
    split_ifs <;> rw [current] <;> rfl
  · unfold noteFrameNumber countReceived
    dsimp only
    split_ifs <;> exact only.previous
  · unfold noteFrameNumber countReceived
    dsimp only
    split_ifs <;> exact only.totals

/-- An update that is no detail counts nothing else in a session without statistics. -/
theorem CountsReceivedOnly.update {stats : StreamStats} (only : CountsReceivedOnly stats)
    (disabled : stats.session.enabled = false) {update : StatsUpdate}
    (plain : ¬ update.tokenKind.Detailed) (generation : UInt32) (now : UInt64)
    : CountsReceivedOnly (update.apply stats generation now) := by
  have advanced := only.advance now
  have still : (advanceWindow stats now).session.enabled = false := by
    rw [(advanceWindow_session stats now).1, disabled]
  cases update with
  | connectionStatus poor =>
      rw [StatsUpdate.apply, moonlightStatsConnectionStatus, taggedUpdate]
      rcases beginUpdate_cases stats generation now with ⟨refused, -⟩ | ⟨accepted, -⟩
      · rw [refused]
        exact only
      · rw [accepted]
        exact ⟨advanced.current, advanced.previous, advanced.totals⟩
  | received frameNumber bytes idr hostLatency receiveUs enqueueUs later =>
      rw [StatsUpdate.apply, moonlightStatsReceived, taggedUpdate]
      rcases beginUpdate_cases stats generation now with ⟨refused, -⟩ | ⟨accepted, -⟩
      · rw [refused]
        exact only
      · rw [accepted]
        have framed := (noteFrameNumber_effect
          (countReceived (advanceWindow stats now) bytes later) frameNumber).1
        dsimp only
        rw [framed.enabled]
        have off : (countReceived (advanceWindow stats now) bytes later).session.enabled = false :=
          still
        rw [off]
        exact advanced.received frameNumber bytes later
  | network => exact absurd (.inl rfl) plain
  | audioDecode | audioOutput => exact absurd (.inr (.inr rfl)) plain
  | _ => exact absurd (.inr (.inl rfl)) plain

/-- A token carries the generation of the session it was handed out in, and one for details went
to a session with statistics.
-/
def Token.Valid (token : Token) (sessions : Nat) (enabled : Bool) : Prop :=
  token.generation ≠ 0
  → token.session ≤ sessions
    ∧ token.generation = nextGeneration^[token.session] 0
    ∧ (token.kind.Detailed → token.session = sessions → enabled = true)

/-- Old tokens stay valid when a session begins. -/
theorem Token.Valid.outlives {token : Token} {sessions : Nat} {enabled : Bool}
    (valid : token.Valid sessions enabled) (later : Bool)
    : token.Valid (sessions + 1) later := by
  intro nonzero
  obtain ⟨past, generation, -⟩ := valid nonzero
  exact ⟨by omega, generation, fun _ same => by omega⟩

/-- A token of the running session is valid, given statistics where it is for details. -/
theorem token_valid {kind : TokenKind} {sessions : Nat} {generation : UInt32} {enabled : Bool}
    (issued
      : generation ≠ 0
        → generation = nextGeneration^[sessions] 0 ∧ (kind.Detailed → enabled = true))
    : Token.Valid ⟨kind, sessions, generation⟩ sessions enabled :=
  fun nonzero => ⟨Nat.le_refl _, (issued nonzero).1, fun detailed _ => (issued nonzero).2 detailed⟩

/-- The running session and the tokens handed out so far. -/
structure Tagged (handed : Handouts) (stats : StreamStats) : Prop where
  generation : stats.session.generation = nextGeneration^[handed.sessions] 0
  tokens : ∀ token ∈ handed.tokens, token.Valid handed.sessions stats.session.enabled

theorem Tagged.begin {handed : Handouts} {stats : StreamStats} (tagged : Tagged handed stats)
    (settings : MoonlightSettings) (now : UInt64)
    : Tagged
        (handed.observe
          (.began (nextGeneration stats.session.generation) settings now))
        (moonlightStatsBegin stats settings now).1 := by
  have next : nextGeneration stats.session.generation
      = nextGeneration^[handed.sessions + 1] 0 := by
    rw [Function.iterate_succ_apply', tagged.generation]
  refine ⟨next, ?_⟩
  intro token member
  rcases List.mem_append.1 member with network | rest
  · split_ifs at network with shown
    · rw [List.mem_singleton.1 network]
      exact token_valid fun _ => ⟨next, fun _ => decide_eq_true shown⟩
    · cases network
  · rcases List.mem_cons.1 rest with rfl | old
    · refine token_valid fun _ => ⟨next, fun detailed => ?_⟩
      simp [TokenKind.Detailed] at detailed
    · exact (tagged.tokens token old).outlives _

theorem Tagged.configureVideo {handed : Handouts} {stats : StreamStats}
    (tagged : Tagged handed stats) (format width height fps : Int)
    : let (after, receive, detail) := moonlightStatsConfigureVideo stats format width height fps
      Tagged (handed.observe (.videoConfigured receive detail)) after := by
  refine ⟨tagged.generation, ?_⟩
  intro token member
  rcases List.mem_cons.1 member with rfl | rest
  · refine token_valid fun nonzero => ⟨?_, fun detailed => ?_⟩
    · split_ifs at nonzero ⊢
      · exact tagged.generation
      · exact absurd rfl nonzero
    · simp [TokenKind.Detailed] at detailed
  · rcases List.mem_cons.1 rest with rfl | old
    · refine token_valid fun nonzero => ?_
      split_ifs at nonzero ⊢ with running
      · exact ⟨tagged.generation, fun _ => running.2⟩
      · exact absurd rfl nonzero
    · exact tagged.tokens token old

theorem Tagged.configureAudio {handed : Handouts} {stats : StreamStats}
    (tagged : Tagged handed stats) (sampleRate channels : Int)
    : let (after, detail) := moonlightStatsConfigureAudio stats sampleRate channels
      Tagged (handed.observe (.audioConfigured detail)) after := by
  refine ⟨tagged.generation, ?_⟩
  intro token member
  rcases List.mem_cons.1 member with rfl | old
  · refine token_valid fun nonzero => ?_
    split_ifs at nonzero ⊢ with running
    · exact ⟨tagged.generation, fun _ => running.2⟩
    · exact absurd rfl nonzero
  · exact tagged.tokens token old

/-- The tokens stay in order along a run, one case for each call. -/
theorem reaches_tagged {trace : List StatsEvent} {state : StatsState}
    (reached : statsMachine.Reaches trace state)
    : Tagged (handouts trace) state.stats := by
  induction reached with
  | start initial =>
      subst initial
      exact ⟨rfl, fun token member => nomatch member⟩
  | next before taken tagged =>
      rename_i earlier middle call after emitted
      have same : ∀ {handed : Handouts} {stats : StreamStats}, Tagged handed middle.stats →
          stats.session.generation = middle.stats.session.generation →
          stats.session.enabled = middle.stats.session.enabled → Tagged handed stats := by
        intro handed stats tagged generation enabled
        refine ⟨generation.trans tagged.generation, ?_⟩
        rw [enabled]
        exact tagged.tokens
      unfold handouts at tagged ⊢
      rw [List.foldl_append]
      generalize earlier.foldl Handouts.observe {} = handed at tagged
      cases call with
      | begin settings now =>
          obtain ⟨rfl, rfl⟩ := Prod.ext_iff.1 (Option.some.inj taken)
          exact tagged.begin settings now
      | finish generation =>
          obtain ⟨rfl, rfl⟩ := Prod.ext_iff.1 (Option.some.inj taken)
          have frame := moonlightStatsEnd_frame middle.stats generation
          exact same tagged frame.1 frame.2
      | configureVideo format width height fps =>
          obtain ⟨rfl, rfl⟩ := Prod.ext_iff.1 (Option.some.inj taken)
          exact tagged.configureVideo format width height fps
      | configureAudio sampleRate channels =>
          obtain ⟨rfl, rfl⟩ := Prod.ext_iff.1 (Option.some.inj taken)
          exact tagged.configureAudio sampleRate channels
      | update generation update now =>
          simp only [statsMachine] at taken
          split_ifs at taken with ordered
          obtain ⟨rfl, rfl⟩ := Prod.ext_iff.1 (Option.some.inj taken)
          have frame := update_frame before generation update ordered.1
          exact same tagged frame.1 frame.2
      | snapshot now =>
          simp only [statsMachine] at taken
          split_ifs at taken with ordered
          obtain ⟨rfl, rfl⟩ := Prod.ext_iff.1 (Option.some.inj taken)
          have frame := (advanceWindow_session middle.stats now).1
          exact same tagged (congrArg _ frame) (congrArg _ frame)

/-- A recent token for details is of no use in a session without statistics. -/
theorem detail_refused {trace : List StatsEvent} {state : StatsState}
    (reached : statsMachine.Reaches trace state) (disabled : state.stats.session.enabled = false)
    {generation : UInt32} {update : StatsUpdate} {now : UInt64}
    (admitted : DisciplinedSoon trace state (.update generation update now))
    (detailed : update.tokenKind.Detailed)
    : update.apply state.stats generation now = state.stats := by
  obtain ⟨record, tagged, -⟩ := recorded_of_tagged update
  rw [tagged, taggedUpdate]
  rcases beginUpdate_cases state.stats generation now with ⟨refused, -⟩ | ⟨-, nonzero, same, -⟩
  · rw [refused]
  · obtain ⟨token, handed, kind, carried, recent⟩ := admitted
    obtain ⟨running, tokens⟩ := reaches_tagged reached
    obtain ⟨past, issued, shown⟩ := tokens token handed (carried ▸ nonzero)
    have round := generation_returns past (by rw [← running, ← issued, carried, same])
    have now_session : token.session = (handouts trace).sessions := by omega
    rw [shown (kind ▸ detailed) now_session] at disabled
    contradiction

/-- With recent tokens only, a session without statistics counts received frames alone, by
induction on the run.
-/
theorem disabled_counts_received {trace : List StatsEvent} {state : StatsState}
    (reached : statsMachine.ReachesWhen DisciplinedSoon trace state)
    : state.stats.session.enabled = false → CountsReceivedOnly state.stats := by
  induction reached with
  | start initial =>
      subst initial
      exact fun _ => ⟨rfl, rfl, by simp [MoonlightStreamStats.detailTotals]⟩
  | next before admitted taken ih =>
      rename_i earlier middle call after emitted
      intro disabled
      cases call with
      | begin settings now =>
          obtain ⟨rfl, rfl⟩ := Prod.ext_iff.1 (Option.some.inj taken)
          exact ⟨rfl, rfl, by simp [MoonlightStreamStats.detailTotals]⟩
      | finish generation =>
          obtain ⟨rfl, rfl⟩ := Prod.ext_iff.1 (Option.some.inj taken)
          have only := ih ((moonlightStatsEnd_frame middle.stats generation).2 ▸ disabled)
          dsimp only [moonlightStatsEnd]
          split_ifs
          · exact ⟨only.current, only.previous, only.totals⟩
          · exact only
      | configureVideo format width height fps =>
          obtain ⟨rfl, rfl⟩ := Prod.ext_iff.1 (Option.some.inj taken)
          have only := ih disabled
          exact ⟨only.current, only.previous, only.totals⟩
      | configureAudio sampleRate channels =>
          obtain ⟨rfl, rfl⟩ := Prod.ext_iff.1 (Option.some.inj taken)
          have only := ih disabled
          exact ⟨only.current, only.previous, only.totals⟩
      | update generation update now =>
          simp only [statsMachine] at taken
          split_ifs at taken with ordered
          obtain ⟨rfl, rfl⟩ := Prod.ext_iff.1 (Option.some.inj taken)
          have off : middle.stats.session.enabled = false :=
            (update_frame before.reaches generation update ordered.1).2 ▸ disabled
          by_cases detailed : update.tokenKind.Detailed
          · rw [detail_refused before.reaches off admitted detailed]
            exact ih off
          · exact (ih off).update off detailed generation now
      | snapshot now =>
          simp only [statsMachine] at taken
          split_ifs at taken with ordered
          obtain ⟨rfl, rfl⟩ := Prod.ext_iff.1 (Option.some.inj taken)
          have off : middle.stats.session.enabled = false := by
            rw [← (advanceWindow_session middle.stats now).1]
            exact disabled
          exact (ih off).advance now

-----------------------------------------------------------------------------------------
-- Isolation
-----------------------------------------------------------------------------------------

/-- After a session has begun under a generation, updates with another one, and all updates once
it has ended, leave the statistics unchanged. No generation is zero or comes back within
2^32 - 1 sessions. With recent tokens, a session without statistics counts only what it received.
-/
theorem generations_isolate_sessions {trace : List StatsEvent} {state : StatsState}
    (reached : statsMachine.Reaches trace state)
    : (∀ before generation settings startUs after,
        trace = before ++ .began generation settings startUs :: after
        → NoneBegins after
        → ∀ other (update : StatsUpdate) now,
            other ≠ generation ∨ .ended generation ∈ after
            → update.apply state.stats other now = state.stats)
      ∧ (∀ generation ∈ begunGenerations trace, generation ≠ 0)
      ∧ (∀ first second left right,
          (begunGenerations trace)[first]? = some left
          → (begunGenerations trace)[second]? = some right
          → first < second
          → second - first < 2 ^ 32 - 1
          → left ≠ right)
      ∧ (statsMachine.ReachesWhen DisciplinedSoon trace state
        → state.stats.session.enabled = false
        → CountsReceivedOnly state.stats) := by
  refine ⟨?_, begun_ne_zero reached, ?_, disabled_counts_received⟩
  · intro before generation settings startUs after split last other update now stale
    subst split
    have told := @account_until_next_begin before after generation settings startUs last
    refine uncounted_update reached ?_ update now
    rintro ⟨running, same⟩
    rcases stale with different | ended
    · exact different (same.trans told.1)
    · rw [told.2 ended] at running
      contradiction
  · intro first second left right earlier later ordered near
    exact begun_distinct reached earlier later ordered near

/-- A session without statistics gets a frame, and a queued picture under a foreign generation. -/
theorem foreign_picture_not_counted
    : ∃ trace state,
        statsMachine.Reaches trace state
        ∧ StatsUpdate.apply state.stats 2 30 (.queued false) = state.stats
        ∧ CountsReceivedOnly state.stats := by
  have reached := Machine.reachesWhen_run statsMachine DisciplinedSoon
    (rfl : statsMachine.initial {})
    [.begin {} 0, .configureVideo 1 960 544 60, .update 1 (.received 7 100 true 5 1 2 10) 10]
    ⟨trivial, trivial, ⟨⟨.receive, 1, 1⟩, by decide, rfl, rfl, by decide⟩, trivial⟩ rfl
  obtain ⟨apart, -, -, received⟩ := generations_isolate_sessions reached.reaches
  refine ⟨_, _, reached.reaches, ?_, received reached rfl⟩
  exact apart [] 1 {} 0 _ rfl (by simp [NoneBegins]) 2 (.queued false) 30 (.inl (by decide))

/-- A session without statistics begins at time zero; the tokens handed out so far stay around. -/
theorem silent_session_begins {trace : List StatsEvent} {state : StatsState}
    (reached : statsMachine.ReachesWhen Disciplined trace state) (atZero : state.clock = 0)
    : ∃ later,
        statsMachine.ReachesWhen Disciplined (trace ++ later)
          { stats := (moonlightStatsBegin state.stats {} 0).1, clock := 0 }
        ∧ (handouts trace).tokens ⊆ (handouts (trace ++ later)).tokens := by
  have admitted : Disciplined trace state (.begin {} 0) := trivial
  have begun := reached.next admitted rfl
  have still : max state.clock 0 = 0 := by
    rw [atZero]
    rfl
  rw [still] at begun
  refine ⟨_, begun, ?_⟩
  unfold handouts
  rw [List.foldl_append]
  exact fun token member => List.mem_cons_of_mem _ member

/-- Sessions without statistics begin one after the other, by induction on how many follow the
first one.
-/
theorem silent_sessions_begin {trace : List StatsEvent} {state : StatsState}
    (reached : statsMachine.ReachesWhen Disciplined trace state) (atZero : state.clock = 0)
    (turns : Nat)
    : ∃ later stats,
        statsMachine.ReachesWhen Disciplined (trace ++ later)
          { stats := (moonlightStatsBegin stats {} 0).1, clock := 0 }
        ∧ stats.session.generation = nextGeneration^[turns] state.stats.session.generation
        ∧ (handouts trace).tokens ⊆ (handouts (trace ++ later)).tokens := by
  induction turns with
  | zero =>
      obtain ⟨later, begun, kept⟩ := silent_session_begins reached atZero
      exact ⟨later, state.stats, begun, rfl, kept⟩
  | succ turns ih =>
      obtain ⟨later, stats, begun, generation, kept⟩ := ih
      obtain ⟨next, again, more⟩ := silent_session_begins begun rfl
      rw [List.append_assoc] at again more
      refine ⟨later ++ next, _, again, ?_, List.Subset.trans kept more⟩
      rw [Function.iterate_succ_apply', ← generation]
      rfl

/-- A token from 2^32 - 1 sessions ago is good for the session that got its generation again,
although this one has statistics disabled.
-/
theorem old_token_counts_again
    : ∃ trace state,
        statsMachine.ReachesWhen Disciplined trace state
        ∧ state.stats.session.enabled = false
        ∧ ¬ CountsReceivedOnly state.stats := by
  have shown
      : ∃ trace state,
          statsMachine.ReachesWhen Disciplined trace state
          ∧ state.clock = 0
          ∧ state.stats.session.generation = 1
          ∧ ⟨.video, 1, 1⟩ ∈ (handouts trace).tokens :=
    ⟨_, _, Machine.reachesWhen_run statsMachine Disciplined (rfl : statsMachine.initial {})
      [.begin { showFps := 1 } 0, .configureVideo 1 960 544 60] ⟨trivial, trivial, trivial⟩ rfl,
      rfl, rfl, by decide⟩
  obtain ⟨trace, state, configured, atZero, first, handed⟩ := shown
  obtain ⟨later, stats, begun, generation, kept⟩ :=
    silent_sessions_begin configured atZero (2 ^ 32 - 2)
  have around : nextGeneration stats.session.generation = 1 := by
    rw [generation, first, ← Function.iterate_succ_apply' nextGeneration]
    exact nextGeneration_round (by rfl)
  have silent : (moonlightStatsBegin stats {} 0).1
      = { session := { generation := 1, enabled := false, active := true } } := by
    simp [moonlightStatsBegin, around]
  rw [silent] at begun
  have admitted : ∀ state,
      Disciplined (trace ++ later) state (.update 1 (.decode 7 1 false false) 0) :=
    fun _ => ⟨⟨.video, 1, 1⟩, kept handed, rfl, rfl⟩
  have counted := begun.next (admitted _) rfl
  refine ⟨_, _, counted, by decide, ?_⟩
  intro only
  have samples := congrArg (fun bucket => (bucket.timing .decode).samples) only.current
  exact absurd samples (by decide)

end VitaMoonlight.Stream
