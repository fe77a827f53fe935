import VitaMoonlight.Services.QuitConsent

/-! Every step of the main thread, of a launch and of the sessions keeps to the consent.
-/

namespace VitaMoonlight

open Library

variable {Certificate : Type} {state after : RemoteQuitState Certificate} {past : QuitHistory}

theorem DialogConsistent.congr {service : ConnectionService} {later : QuitHistory}
    (consistent : DialogConsistent service past) (dialog : later.dialog = past.dialog)
    : DialogConsistent service later :=
  ⟨consistent.quiet, consistent.question, fun opened => dialog.trans (consistent.opened opened)⟩

theorem QuitHistory.MayStart.congr {later : QuitHistory} {application quit : Int}
    (may : past.MayStart application quit) (answered : later.answered = past.answered)
    (requested : later.requested = past.requested)
    : later.MayStart application quit :=
  may.imp (fun mine => ⟨requested.trans mine.1, mine.2⟩) answered.trans

theorem ThreadConsistent.congr {later : QuitHistory} {thread : MainThread}
    (consistent : ThreadConsistent state past thread) (answered : later.answered = past.answered)
    (requested : later.requested = past.requested)
    (stream : after.stream.launching = state.stream.launching)
    (launch : after.launch.point = state.launch.point)
    : ThreadConsistent after later thread := by
  cases thread with
  | idle => trivial
  | calling application quit polling | admitting application quit polling =>
      exact QuitHistory.MayStart.congr consistent answered requested
  | creating polling => exact ⟨stream ▸ consistent.1, launch ▸ consistent.2⟩

/-- The two histories differ at most in the dialogs and in what is asked for. -/
def QuitHistory.SameLaunch (past later : QuitHistory) : Prop :=
  later
  = { past with
      dialog := later.dialog, answered := later.answered, requested := later.requested }

/-- A launch reads neither what a dialog asks nor what was asked for. -/
theorem LaunchConsistent.congr {later : QuitHistory} (consistent : LaunchConsistent state past)
    (same : past.SameLaunch later)
    : LaunchConsistent state later := by
  rw [same]
  refine ⟨consistent.running, consistent.owners, consistent.live, consistent.selected,
    consistent.cancelled, ?_⟩
  have point := consistent.point
  generalize state.launch.point = here at point ⊢
  cases here <;> exact point

/-- Launch labels leave the dialogs and the stops alone, by induction on the labels. -/
theorem observe_launch (past : QuitHistory) (labels : List LaunchLabel)
    : ∃ live consent snapshot decided,
        (labels.map RemoteQuitLabel.launch).foldl QuitHistory.observe past
        = { past with live, consent, snapshot, decided } := by
  induction labels generalizing past with
  | nil => exact ⟨past.live, past.consent, past.snapshot, past.decided, rfl⟩
  | cons label rest ih =>
      obtain ⟨live, consent, snapshot, decided, same⟩ := ih (past.observe (.launch label))
      refine ⟨live, consent, snapshot, decided, ?_⟩
      rw [List.map_cons, List.foldl_cons, same]
      cases label with
      | serverInfo authenticated currentGame => cases authenticated <;> rfl
      | cancel | decided | launch | resume | failed => rfl

-----------------------------------------------------------------------------------------
-- The main thread
-----------------------------------------------------------------------------------------

/-- Nothing else of the state matters. -/
theorem QuitConsistent.frame (consistent : QuitConsistent state past)
    (service : after.service = state.service) (thread : after.thread = state.thread)
    (launch : after.launch = state.launch) (server : after.server = state.server)
    (stream : after.stream = state.stream)
    : QuitConsistent after past := by
  refine ⟨service ▸ consistent.dialog, ?_, fun running => ?_⟩
  · rw [thread]
    exact consistent.thread.congr rfl rfl (by rw [stream]) (by rw [launch])
  · have before := consistent.launch (launch ▸ running)
    exact ⟨stream ▸ before.running, by rw [stream, launch]; exact before.owners, before.live,
      launch ▸ before.selected, stream ▸ before.cancelled, by
        rw [server, launch]; exact before.point⟩

/-- What the main thread does to its own part of the state. -/
theorem QuitConsistent.main {service : ConnectionService} {thread : MainThread}
    (consistent : QuitConsistent state past) (events : MoonlightEventQueue)
    (dialog : DialogConsistent service past) (ready : ThreadConsistent state past thread)
    : QuitConsistent { state with service, thread, events } past := by
  refine ⟨dialog, ready.congr rfl rfl rfl rfl, fun running => ?_⟩
  have launch := consistent.launch running
  exact ⟨launch.running, launch.owners, launch.live, launch.selected, launch.cancelled,
    launch.point⟩

/-- What has been asked for is refused while the main thread is in its loop. -/
theorem QuitConsistent.refused {service : ConnectionService}
    (consistent : QuitConsistent state past) (idle : state.thread = .idle)
    (dialog : DialogConsistent service past)
    : QuitConsistent { state with service } (past.observe .refused) := by
  refine ⟨dialog.congr rfl, ?_, fun running => ?_⟩
  · rw [show ({ state with service } : RemoteQuitState Certificate).thread = .idle from idle]
    trivial
  · have unchanged : past.SameLaunch (past.observe .refused) := rfl
    have launch := (consistent.launch running).congr unchanged
    exact ⟨launch.running, launch.owners, launch.live, launch.selected, launch.cancelled,
      launch.point⟩

/-- A start that begins carries the ids that were asked for; one that does not is refused. -/
theorem QuitConsistent.startConfirmed (consistent : QuitConsistent state past)
    (idle : state.thread = .idle) {application quit : Int} (may : past.MayStart application quit)
    (slot : Int) (polling : Bool)
    : QuitKeeps past (state.startConfirmed application quit slot polling).2
        (state.startConfirmed application quit slot polling).1 := by
  have begun := consistent.dialog.beginOperation .launch slot
  unfold RemoteQuitState.startConfirmed
  split
  · rename_i service same
    rw [same] at begun
    exact .silent (consistent.main state.events begun may)
  · rename_i service result _ same
    rw [same] at begun
    refine ⟨⟨trivial, trivial⟩, consistent.refused idle ?_⟩
    split
    · exact begun.confirmedReturned result
    · exact begun

/-- A start that returns leaves the main thread in its loop. -/
theorem quitConsistent_startReturned (state : RemoteQuitState Certificate)
    (dialog : DialogConsistent state.service past)
    (launch : state.launch.point ≠ .returned → LaunchConsistent state past) (result : Int)
    (polling : Bool)
    : QuitConsistent (state.startReturned result polling) past := by
  have returned := dialog.startReturned result
  refine ⟨?_, trivial, fun running => ?_⟩
  · unfold RemoteQuitState.startReturned
    dsimp only
    split
    · exact returned.confirmedReturned result
    · exact returned
  · have before := launch running
    exact ⟨before.running, before.owners, before.live, before.selected, before.cancelled,
      before.point⟩

/-- A start that was refused returns. -/
theorem quitKeeps_refused (state : RemoteQuitState Certificate)
    (dialog : DialogConsistent state.service past)
    (launch : state.launch.point ≠ .returned → LaunchConsistent state past) (result : Int)
    (polling : Bool)
    : QuitKeeps past [.refused] (state.startReturned result polling) := by
  have dialog : DialogConsistent state.service (past.observe .refused) := dialog.congr rfl
  exact ⟨⟨trivial, trivial⟩,
    quitConsistent_startReturned state dialog (fun running => (launch running).congr rfl) result
      polling⟩

/-- A dialog that opens or closes while the main thread is in its loop. -/
theorem QuitConsistent.shown {service : ConnectionService}
    (consistent : QuitConsistent state past) (later : QuitHistory) (idle : state.thread = .idle)
    (same : past.SameLaunch later) (dialog : DialogConsistent service later)
    : QuitConsistent { state with service } later := by
  refine ⟨dialog, ?_, fun running => ?_⟩
  · rw [show ({ state with service } : RemoteQuitState Certificate).thread = .idle from idle]
    trivial
  · have launch := (consistent.launch running).congr same
    exact ⟨launch.running, launch.owners, launch.live, launch.selected, launch.cancelled,
      launch.point⟩

/-- A round of the dialog task: what opens is the quit question if it asks for ids, and an
answer YES is one to the open dialog.
-/
theorem dialogPollTask_keeps (consistent : QuitConsistent state past)
    (idle : state.thread = .idle) (poll : DialogPoll) (slot : Int)
    : QuitKeeps past (state.dialogPollTask poll slot).2 (state.dialogPollTask poll slot).1 := by
  unfold RemoteQuitState.dialogPollTask
  obtain ⟨⟨service, opened⟩, tried⟩
      : ∃ result, state.service.tryShowError poll.init = result := ⟨_, rfl⟩
  obtain ⟨question, dialog⟩ := consistent.dialog.tryShowError poll.init tried
  rw [tried]
  dsimp only
  generalize shown_eq
    : (if opened = true then [RemoteQuitLabel.dialogOpened service.errorMessage service.asked]
      else [])
      = shown
  have permitted : AllPermitted QuitHistory.observe QuitHistory.Permits past shown := by
    rw [← shown_eq]
    split
    · rename_i opens
      exact ⟨question opens, trivial⟩
    · trivial
  obtain ⟨seen, seen_eq⟩ : ∃ seen, shown.foldl QuitHistory.observe past = seen := ⟨_, rfl⟩
  have same : past.SameLaunch seen := by
    rw [← seen_eq, ← shown_eq]
    split <;> rfl
  have dialog : DialogConsistent service seen := by
    rw [← seen_eq, ← shown_eq]
    split
    · rename_i opens
      simpa [opens] using dialog
    · rename_i closed
      simpa [closed] using dialog
  have opening := consistent.shown seen idle same dialog
  split
  · rename_i is_open
    unfold ConnectionService.readDialog
    split
    · rename_i unfinished
      exact ⟨permitted, by rwa [seen_eq]⟩
    · rename_i closed result
      split at result
      · contradiction
      · obtain ⟨rfl, yes⟩ := Prod.mk.inj (Option.some.inj result)
        simp only [Bool.and_eq_true, decide_eq_true_eq] at yes
        have asks : seen.dialog = some (service.confirmApplicationId, service.confirmRunningId) := by
          rw [dialog.opened is_open, ConnectionService.asked, if_pos yes.1]
        have cleared
            : DialogConsistent
                { service with
                  errorDialogOpen := false
                  errorMessage := .empty }.clearConfirmation
                (seen.observe (.dialogClosed true)) :=
          .of_closed rfl rfl
        have closed := opening.shown (seen.observe (.dialogClosed true)) idle rfl cleared
        have begun := closed.startConfirmed idle (.inr asks) slot true
        refine ⟨permitted.append ?_, ?_⟩
        · rw [seen_eq]
          exact ⟨fun _ => by simp [asks], begun.permitted⟩
        · rw [List.foldl_append, seen_eq]
          exact begun.consistent
    · rename_i closed result
      split at result
      · contradiction
      · obtain ⟨rfl, -⟩ := Prod.mk.inj (Option.some.inj result)
        refine ⟨permitted.append ⟨fun yes => absurd yes (by decide), trivial⟩, ?_⟩
        rw [List.foldl_append, seen_eq]
        exact opening.shown (seen.observe (.dialogClosed false)) idle rfl
          (DialogConsistent.of_closed rfl rfl).unregisterIdle
  · exact ⟨permitted, by
      rw [seen_eq]
      exact consistent.shown seen idle same dialog.unregisterIdle⟩

/-- A start that begins or is refused leaves the sessions alone. -/
theorem startConfirmed_stream (state : RemoteQuitState Certificate) (application quit slot : Int)
    (polling : Bool)
    : quitStreamTrace (state.startConfirmed application quit slot polling).2 = []
      ∧ (state.startConfirmed application quit slot polling).1.stream = state.stream := by
  unfold RemoteQuitState.startConfirmed
  split <;> exact ⟨rfl, rfl⟩

/-- The dialog task leaves the sessions alone. -/
theorem dialogPollTask_stream (state : RemoteQuitState Certificate) (poll : DialogPoll)
    (slot : Int)
    : quitStreamTrace (state.dialogPollTask poll slot).2 = []
      ∧ (state.dialogPollTask poll slot).1.stream = state.stream := by
  unfold RemoteQuitState.dialogPollTask RemoteQuitState.startConfirmed
  generalize state.service.tryShowError poll.init = tried
  obtain ⟨service, opened⟩ := tried
  dsimp only
  cases opened <;> repeat' split
  all_goals exact ⟨rfl, rfl⟩

/-- Every action of the main thread's loop keeps to the consent. -/
theorem screenStep_keeps {action : ScreenAction} {labels : List RemoteQuitLabel}
    (consistent : QuitConsistent state past) (idle : state.thread = .idle)
    (taken : state.screenStep action = some (after, labels))
    : QuitKeeps past labels after ∧ quitStreamTrace labels = [] ∧ after.stream = state.stream := by
  have ready := consistent.thread
  cases action with
  | connect host slot enqueued =>
      obtain ⟨rfl, rfl⟩ := taken
      exact ⟨.silent (consistent.main state.events (consistent.dialog.connect host slot enqueued) ready), rfl, rfl⟩
  | loadApplications slot enqueued =>
      have begun := consistent.dialog.beginOperation .applications slot
      simp only [RemoteQuitState.screenStep] at taken
      split at taken
      · rename_i service same
        rw [same] at begun
        obtain ⟨rfl, rfl⟩ := taken
        refine ⟨.silent (consistent.main state.events ?_ ready), rfl, rfl⟩
        split
        · exact begun
        · exact begun.finishUnstartedOperation
      · rename_i service result _ same
        rw [same] at begun
        obtain ⟨rfl, rfl⟩ := taken
        exact ⟨.silent (consistent.main state.events begun ready), rfl, rfl⟩
  | start application slot =>
      obtain ⟨rfl, rfl⟩ := taken
      have asked
          : QuitConsistent { state with service := state.service }
              (past.observe (.requested application)) :=
        consistent.shown _ idle rfl (consistent.dialog.congr rfl)
      have started := asked.startConfirmed idle (.inl ⟨rfl, rfl⟩) slot false
      exact ⟨⟨⟨trivial, started.permitted⟩, started.consistent⟩,
        startConfirmed_stream state application 0 slot false⟩
  | showError message result =>
      obtain ⟨rfl, rfl⟩ := taken
      exact ⟨.silent (consistent.main state.events (consistent.dialog.showError message result) ready), rfl, rfl⟩
  | poll poll slot =>
      simp only [RemoteQuitState.screenStep] at taken
      split at taken
      · have same := Option.some.inj taken
        have kept := dialogPollTask_keeps consistent idle poll slot
        have silent := dialogPollTask_stream state poll slot
        rw [same] at kept silent
        exact ⟨kept, silent⟩
      · contradiction
  | processEvent address =>
      obtain ⟨rfl, rfl⟩ := taken
      unfold RemoteQuitState.processEvent
      split
      · rename_i events event peeked
        have prepared := consistent.dialog.prepareCompletion event
        exact ⟨.silent (consistent.main _ prepared ready), rfl, rfl⟩
      · rename_i events peeked
        split
        · rename_i event completed
          have prepared := consistent.dialog.prepareCompletion event
          exact ⟨.silent (consistent.main _ prepared ready), rfl, rfl⟩
        · exact ⟨.silent (consistent.main events consistent.dialog ready), rfl, rfl⟩
  | shutdown =>
      obtain ⟨rfl, rfl⟩ := taken
      have closed
          : ∀ later : QuitHistory, DialogConsistent state.service.shutdown later :=
        fun later => .of_closed rfl rfl
      split
      · refine ⟨⟨⟨fun yes => absurd yes (by decide), trivial⟩, ?_⟩, rfl, rfl⟩
        exact consistent.shown (past.observe (.dialogClosed false)) idle rfl (closed _)
      · exact ⟨.silent (consistent.main state.events (closed past) ready), rfl, rfl⟩

-----------------------------------------------------------------------------------------
-- Starting a session
-----------------------------------------------------------------------------------------

/-- A session is admitted only when there is no owner left. -/
theorem owners_of_admitted {trace : List StreamLabel} {state stream : StreamState}
    {labels : List StreamLabel} (invariant : StreamInvariant trace state)
    (taken : streamStep state .start = some (stream, labels))
    : stream = state ∧ labels = []
      ∨ labels = [.admitted (state.sessions + 1)]
        ∧ stream.flags.threadRunning = true
        ∧ stream.owners = []
        ∧ stream.launching ≠ [] := by
  simp only [streamStep] at taken
  split at taken
  · obtain ⟨rfl, rfl⟩ := taken
    exact .inl ⟨rfl, rfl⟩
  · rename_i flags admitted
    obtain ⟨rfl, rfl⟩ := taken
    simp only [StreamFlags.start] at admitted
    split at admitted
    · contradiction
    · rename_i free
      obtain rfl := Option.some.inj admitted
      refine .inr ⟨rfl, rfl, ?_, by simp⟩
      cases invariant.phase with
      | idle _ _ owners _ => exact owners
      | launching alive _ _ _ _ | owned _ alive _ _ _ => exact absurd alive.running free

/-- What creating an owner, or failing to, does to the sessions. -/
theorem streamStep_create {state stream : StreamState} {succeeds : Bool}
    {labels : List StreamLabel}
    (taken : streamStep state (.create 0 succeeds) = some (stream, labels))
    : ∃ session,
        labels = [if succeeds then .created session else .notCreated session]
        ∧ stream.flags = (if succeeds then state.flags else state.flags.notCreated)
        ∧ stream.owners
          = state.owners ++ (if succeeds then [⟨session, .setup 0⟩] else []) := by
  simp only [streamStep] at taken
  split at taken
  · contradiction
  · rename_i session found
    cases succeeds with
    | true | false =>
        obtain ⟨rfl, rfl⟩ := taken
        exact ⟨session, rfl, rfl, by simp⟩

/-- The steps of `moonlight_api_start_application` keep to the consent: a session that starts
takes the answer it was started for.
-/
theorem threadStep_keeps {action : ThreadAction} {labels : List RemoteQuitLabel}
    {trace : List StreamLabel} (consistent : QuitConsistent state past)
    (stream : StreamInvariant trace state.stream)
    (taken : state.threadStep action = some (after, labels))
    : QuitKeeps past labels after
      ∧ StreamInvariant (trace ++ quitStreamTrace labels) after.stream := by
  have ready := consistent.thread
  simp only [RemoteQuitState.threadStep] at taken
  split at taken
  · rename_i application quit polling calls
    rw [calls] at ready
    obtain ⟨rfl, rfl⟩ := taken
    have moved := consistent.main state.events consistent.dialog
      (show ThreadConsistent state past (.admitting application quit polling) from ready)
    exact ⟨.silent (moved.frame rfl rfl rfl rfl rfl), stream.unchanged⟩
  · rename_i application quit polling result calls
    split at taken
    · contradiction
    · obtain ⟨rfl, rfl⟩ := taken
      exact ⟨quitKeeps_refused state consistent.dialog consistent.launch result polling,
        stream.unchanged⟩
  · rename_i application quit polling admits
    rw [admits] at ready
    split at taken
    · rename_i later started
      obtain ⟨rfl, rfl⟩ := taken
      rcases owners_of_admitted stream started with ⟨rfl, -⟩ | ⟨shown, -⟩
      · have refused := quitKeeps_refused state consistent.dialog consistent.launch (-2) polling
        exact ⟨⟨refused.permitted, refused.consistent.frame rfl rfl rfl rfl rfl⟩, stream.unchanged⟩
      · simp at shown
    · rename_i later shown nonempty started
      obtain ⟨rfl, rfl⟩ := taken
      rcases owners_of_admitted stream started with ⟨-, none⟩ | ⟨rfl, running, owners, launching⟩
      · exact absurd none nonempty
      · refine ⟨⟨⟨trivial, ready, trivial⟩, ?_⟩, ?_⟩
        · refine ⟨consistent.dialog.congr rfl, ⟨launching, rfl⟩, fun _ => ?_⟩
          refine ⟨running, by simp [owners], rfl, rfl, fun stopped => ?_, fun quits => ?_⟩
          · simp [QuitHistory.observe] at stopped
          · have answered : past.answered = some (application, quit) :=
              ready.resolve_left fun mine => quits mine.2
            simp [QuitHistory.observe, answered]
        · exact stream.step started
    · contradiction
  · rename_i application quit polling result admits
    split at taken
    · contradiction
    · obtain ⟨rfl, rfl⟩ := taken
      have refused := quitKeeps_refused state consistent.dialog consistent.launch result polling
      exact ⟨⟨refused.permitted, refused.consistent.frame rfl rfl rfl rfl rfl⟩, stream.unchanged⟩
  · rename_i polling creates
    rw [creates] at ready
    split at taken
    · rename_i later shown created
      obtain ⟨rfl, rfl⟩ := taken
      refine ⟨?_, by rw [quitStreamTrace_stream]; exact stream.step created⟩
      obtain ⟨session, rfl, flags, owners⟩ := streamStep_create created
      refine ⟨⟨trivial, trivial⟩, ?_⟩
      refine quitConsistent_startReturned { state with stream := later } consistent.dialog
        (fun running => ?_) 0 polling
      have launch := consistent.launch running
      have setup := launch.owners
      rw [ready.2] at setup
      refine ⟨(congrArg _ flags).trans launch.running, fun owner member => ?_, launch.live,
        launch.selected, fun stopped => (congrArg _ flags).trans (launch.cancelled stopped),
        launch.point⟩
      rw [owners] at member
      simp only [ready.2]
      rcases List.mem_append.mp member with member | member
      · exact setup owner member
      · obtain rfl := List.mem_singleton.mp member
        rfl
    · contradiction
  · rename_i polling result creates
    split at taken
    · rename_i later shown created
      obtain ⟨rfl, rfl⟩ := taken
      refine ⟨?_, by rw [quitStreamTrace_stream]; exact stream.step created⟩
      obtain ⟨session, rfl, -, -⟩ := streamStep_create created
      refine ⟨⟨trivial, trivial⟩, ?_⟩
      exact quitConsistent_startReturned
        { state with
          stream := later
          streamApplicationId := -1
          launch := { state.launch with point := .returned } }
        consistent.dialog (fun running => absurd rfl running) (-4) polling
    · contradiction
  · contradiction

-----------------------------------------------------------------------------------------
-- The launch
-----------------------------------------------------------------------------------------

/-- What a step of a launch that goes on establishes. -/
structure LaunchKeeps (past : QuitHistory) (launch : LaunchFrame) (point next : LaunchPoint)
    (currentGame : Int) (later : QuitHistory) : Prop where
  checks : next.checks = point.checks
  live : later.live = true
  point : PointConsistent currentGame launch later next

/-- A launch that fails after permitted labels. -/
theorem permitted_failed {shown : List LaunchLabel} (result : Int)
    (permitted
      : AllPermitted QuitHistory.observe QuitHistory.Permits past (shown.map .launch))
    : AllPermitted QuitHistory.observe QuitHistory.Permits past
        ((shown ++ [LaunchLabel.failed result]).map .launch) := by
  rw [List.map_append]
  exact permitted.append ⟨trivial, trivial⟩

/-- A request that may be sent is permitted whether it is sent or not. -/
theorem permitted_sent {label : LaunchLabel} (sent : Bool)
    (permitted : past.Permits (.launch label))
    : AllPermitted QuitHistory.observe QuitHistory.Permits past
        ((if sent then [label] else []).map .launch) := by
  cases sent with
  | true => exact ⟨permitted, trivial⟩
  | false => trivial

/-- The cancel request is the last use of the consent, and goes on to the verification. -/
theorem quitAppRequest_keeps {server refreshed : GameStreamServer Certificate}
    {exchange : Exchange} {outcome : Except Int LaunchPoint} {labels : List LaunchLabel}
    (live : past.live = true) (permitted : past.Permits (.launch .cancel))
    (taken : quitAppRequest server exchange = (refreshed, outcome, labels))
    : AllPermitted QuitHistory.observe QuitHistory.Permits past (labels.map .launch)
      ∧ ∀ next,
          outcome = .ok next
          → next = .verifying
            ∧ ((labels.map RemoteQuitLabel.launch).foldl QuitHistory.observe past).live = true := by
  have sent := permitted_sent (requestSent server exchange) permitted
  simp only [quitAppRequest] at taken
  split at taken
  · obtain ⟨rfl, rfl, rfl⟩ := taken
    exact ⟨⟨trivial, trivial⟩, by rintro next ⟨⟩⟩
  · split at taken
    · obtain ⟨rfl, rfl, rfl⟩ := taken
      exact ⟨permitted_failed _ sent, by rintro next ⟨⟩⟩
    · split at taken
      · obtain ⟨rfl, rfl, rfl⟩ := taken
        refine ⟨sent, ?_⟩
        rintro next ⟨⟩
        refine ⟨rfl, ?_⟩
        split <;> exact live
      · obtain ⟨rfl, rfl, rfl⟩ := taken
        exact ⟨permitted_failed _ sent, by rintro next ⟨⟩⟩

/-- The verification goes on only when a fresh serverinfo reports no application. -/
theorem quitAppVerify_keeps {server refreshed : GameStreamServer Certificate}
    {launch : LaunchFrame} {exchange : Exchange} {outcome : Except Int LaunchPoint}
    {labels : List LaunchLabel} (live : past.live = true)
    (taken : quitAppVerify server exchange = (refreshed, outcome, labels))
    : AllPermitted QuitHistory.observe QuitHistory.Permits past (labels.map .launch)
      ∧ ∀ next,
          outcome = .ok next
          → LaunchKeeps past launch .verifying next refreshed.currentGame
              ((labels.map RemoteQuitLabel.launch).foldl QuitHistory.observe past) := by
  simp only [quitAppVerify] at taken
  split at taken
  · obtain ⟨rfl, rfl, rfl⟩ := taken
    exact ⟨⟨trivial, trivial⟩, by rintro next ⟨⟩⟩
  · rename_i answered accepted
    rw [shownServerInfo_of_refreshed accepted] at taken
    split at taken
    · obtain ⟨rfl, rfl, rfl⟩ := taken
      exact ⟨⟨rfl, trivial, trivial⟩, by rintro next ⟨⟩⟩
    · rename_i idle
      obtain ⟨rfl, rfl, rfl⟩ := taken
      refine ⟨⟨rfl, trivial⟩, ?_⟩
      rintro next ⟨⟩
      exact ⟨rfl, live, rfl, fun running => absurd running idle⟩

/-- The launch or resume request is the last of its session. -/
theorem requestLaunch_keeps {server refreshed : GameStreamServer Certificate}
    {application : Int} {resume fits : Bool} {exchange : Exchange}
    {outcome : Except Int LaunchPoint} {labels : List LaunchLabel}
    (permitted : past.Permits (.launch (if resume then .resume else .launch)))
    (taken : requestLaunch server application resume exchange fits = (refreshed, outcome, labels))
    : AllPermitted QuitHistory.observe QuitHistory.Permits past (labels.map .launch)
      ∧ ∀ next, outcome = .ok next → next = .returned := by
  have sent := permitted_sent (requestSent server exchange) permitted
  simp only [requestLaunch] at taken
  split at taken
  · obtain ⟨rfl, rfl, rfl⟩ := taken
    exact ⟨permitted_failed _ sent, by rintro next ⟨⟩⟩
  · split at taken
    · obtain ⟨rfl, rfl, rfl⟩ := taken
      exact ⟨permitted_failed _ sent, by rintro next ⟨⟩⟩
    · split at taken
      · obtain ⟨rfl, rfl, rfl⟩ := taken
        exact ⟨permitted_failed _ sent, by rintro next ⟨⟩⟩
      · obtain ⟨rfl, rfl, rfl⟩ := taken
        exact ⟨sent, by rintro next ⟨⟩; rfl⟩

/-- Every step of a launch shows only what its history permits, and one that goes on knows
what it has to.
-/
theorem launchStep_keeps {server refreshed : GameStreamServer Certificate} {launch : LaunchFrame}
    {point : LaunchPoint} {action : LaunchAction} {outcome : Except Int LaunchPoint}
    {labels : List LaunchLabel} (live : past.live = true)
    (selected : past.selected = launch.application)
    (consistent : PointConsistent server.currentGame launch past point)
    (taken : launchStep server launch.application launch.quit point action
      = some (refreshed, outcome, labels))
    : AllPermitted QuitHistory.observe QuitHistory.Permits past (labels.map .launch)
      ∧ ∀ next,
          outcome = .ok next
          → next ≠ .returned
          → LaunchKeeps past launch point next refreshed.currentGame
              ((labels.map RemoteQuitLabel.launch).foldl QuitHistory.observe past) := by
  unfold launchStep at taken
  split at taken
  · -- entered
    split at taken
    · obtain ⟨rfl, rfl, rfl⟩ := taken
      refine ⟨trivial, ?_⟩
      rintro next ⟨⟩ -
      exact ⟨rfl, live, consistent⟩
    · obtain ⟨rfl, rfl, rfl⟩ := taken
      exact ⟨⟨trivial, trivial⟩, by rintro next ⟨⟩⟩
  · -- refreshing
    split at taken
    · obtain ⟨rfl, rfl, rfl⟩ := taken
      exact ⟨⟨trivial, trivial⟩, by rintro next ⟨⟩⟩
    · rename_i answered accepted
      rw [shownServerInfo_of_refreshed accepted] at taken
      obtain ⟨rfl, rfl, rfl⟩ := taken
      refine ⟨⟨rfl, trivial⟩, ?_⟩
      rintro next ⟨⟩ -
      exact ⟨rfl, live, consistent, rfl⟩
  · -- comparing
    obtain ⟨consented, snapshot⟩ := consistent
    split at taken
    · rename_i conflict
      split at taken
      · obtain ⟨rfl, rfl, rfl⟩ := taken
        exact ⟨⟨trivial, trivial⟩, by rintro next ⟨⟩⟩
      · rename_i approved
        have quits : launch.quit = server.currentGame := not_not.mp approved
        obtain ⟨rfl, rfl, rfl⟩ := taken
        refine ⟨trivial, ?_⟩
        rintro next ⟨⟩ -
        refine ⟨rfl, live, snapshot, conflict.1, conflict.2, ?_⟩
        rw [← quits]
        exact consented (quits ▸ conflict.1)
    · rename_i free
      obtain ⟨rfl, rfl, rfl⟩ := taken
      refine ⟨trivial, ?_⟩
      rintro next ⟨⟩ -
      refine ⟨rfl, live, snapshot, fun running => ?_⟩
      by_contra other
      exact free ⟨running, other⟩
  · -- quitting
    obtain ⟨snapshot, running, other, consent⟩ := consistent
    obtain ⟨permitted, verifies⟩ := quitAppRequest_keeps live
      ⟨live, _, snapshot, running, selected ▸ other, selected ▸ consent⟩ (Option.some.inj taken)
    refine ⟨permitted, fun next goes _ => ?_⟩
    obtain ⟨rfl, still⟩ := verifies next goes
    exact ⟨rfl, still, trivial⟩
  · -- verifying
    obtain ⟨permitted, goes⟩ := quitAppVerify_keeps live (Option.some.inj taken)
    exact ⟨permitted, fun next same _ => goes next same⟩
  · -- generating
    split at taken
    · obtain ⟨rfl, rfl, rfl⟩ := taken
      refine ⟨trivial, ?_⟩
      rintro next ⟨⟩ -
      exact ⟨rfl, live, consistent⟩
    · obtain ⟨rfl, rfl, rfl⟩ := taken
      exact ⟨⟨trivial, trivial⟩, by rintro next ⟨⟩⟩
  · -- requesting
    rename_i resume exchange fits
    obtain ⟨decided, snapshot⟩ := consistent
    have permitted : past.Permits (.launch (if resume then .resume else .launch)) := by
      cases resume with
      | true => exact ⟨live, decided, snapshot.trans (congrArg some selected.symm)⟩
      | false => exact ⟨live, decided, snapshot⟩
    obtain ⟨allowed, ends⟩ := requestLaunch_keeps permitted (Option.some.inj taken)
    exact ⟨allowed, fun next goes running => absurd (ends next goes) running⟩
  · contradiction

-----------------------------------------------------------------------------------------
-- The owner of a session
-----------------------------------------------------------------------------------------

/-- A main thread that creates no owner reads only what was asked for. -/
theorem QuitConsistent.thread_free {later : QuitHistory} (consistent : QuitConsistent state past)
    (free : ∀ polling, state.thread ≠ .creating polling)
    (answered : later.answered = past.answered) (requested : later.requested = past.requested)
    : ThreadConsistent after later state.thread := by
  have ready := consistent.thread
  cases thread : state.thread with
  | idle => trivial
  | calling application quit polling | admitting application quit polling =>
      rw [thread] at ready
      exact QuitHistory.MayStart.congr ready answered requested
  | creating polling => exact absurd thread (free polling)

/-- A launch that goes on keeps the rest of the state. -/
theorem QuitConsistent.launched (consistent : QuitConsistent state past)
    (server : GameStreamServer Certificate) (next : LaunchPoint) (labels : List LaunchLabel)
    (free : ∀ polling, state.thread ≠ .creating polling)
    (running : state.launch.point ≠ .returned)
    (keeps
      : next ≠ .returned
        → LaunchKeeps past state.launch state.launch.point next server.currentGame
            ((labels.map RemoteQuitLabel.launch).foldl QuitHistory.observe past))
    : QuitConsistent ({ state with server }.launchAt next)
        ((labels.map RemoteQuitLabel.launch).foldl QuitHistory.observe past) := by
  have before := consistent.launch running
  obtain ⟨live, consent, snapshot, decided, same⟩ := observe_launch past labels
  rw [same] at keeps ⊢
  refine ⟨consistent.dialog.congr rfl, ?_, fun goes => ?_⟩
  · exact consistent.thread_free free rfl rfl
  · have kept := keeps goes
    have setup := before.owners
    rw [← kept.checks] at setup
    refine ⟨before.running, setup, kept.live, before.selected, before.cancelled, ?_⟩
    have point := kept.point
    show PointConsistent _ _ _ next
    generalize next = here at point ⊢
    cases here <;> exact point

/-- A launch that is over leaves nothing to know. -/
theorem QuitConsistent.finished {server : GameStreamServer Certificate} {stream : StreamState}
    {later : QuitHistory} (consistent : QuitConsistent state past)
    (free : ∀ polling, state.thread ≠ .creating polling) (dialog : later.dialog = past.dialog)
    (answered : later.answered = past.answered) (requested : later.requested = past.requested)
    : QuitConsistent ({ state with server, stream }.launchAt .returned) later := by
  exact ⟨consistent.dialog.congr dialog, consistent.thread_free free answered requested,
    fun running => absurd rfl running⟩

/-- The main thread is not creating an owner once the launch has one. -/
theorem QuitConsistent.free (consistent : QuitConsistent state past)
    (owned : state.stream.launching = [] ∨ state.launch.point ≠ .created)
    : ∀ polling, state.thread ≠ .creating polling := by
  intro polling creates
  have ready := consistent.thread
  rw [creates] at ready
  rcases owned with launched | created
  · exact ready.1 launched
  · exact created ready.2

/-- A launch takes no step of its own before the owner's first check or after its end. -/
theorem launchStep_started {server : GameStreamServer Certificate} {application quit : Int}
    {point : LaunchPoint} {action : LaunchAction} {progress : LaunchProgress Certificate}
    (taken : launchStep server application quit point action = some progress)
    : point ≠ .created ∧ point ≠ .returned := by
  constructor <;> rintro rfl <;> cases action <;> simp [launchStep] at taken

/-- Every step of a launch keeps to the consent. -/
theorem remoteLaunchStep_keeps {action : LaunchAction} {labels : List RemoteQuitLabel}
    {trace : List StreamLabel} (consistent : QuitConsistent state past)
    (stream : StreamInvariant trace state.stream)
    (taken : state.launchStep action = some (after, labels))
    : QuitKeeps past labels after
      ∧ StreamInvariant (trace ++ quitStreamTrace labels) after.stream := by
  simp only [RemoteQuitState.launchStep] at taken
  split at taken
  · contradiction
  · rename_i server point shown stepped
    obtain ⟨created, running⟩ := launchStep_started stepped
    have free := consistent.free (.inr created)
    have before := consistent.launch running
    obtain ⟨permitted, keeps⟩ :=
      launchStep_keeps before.live before.selected before.point stepped
    obtain ⟨rfl, rfl⟩ := taken
    refine ⟨⟨permitted, ?_⟩, ?_⟩
    · exact consistent.launched server point shown free running (keeps point rfl)
    · rw [quitStreamTrace_launch]
      exact stream.unchanged
  · rename_i server result shown stepped
    obtain ⟨created, running⟩ := launchStep_started stepped
    have free := consistent.free (.inr created)
    have before := consistent.launch running
    obtain ⟨permitted, -⟩ := launchStep_keeps before.live before.selected before.point stepped
    split at taken
    · contradiction
    · rename_i later streamed failed
      obtain ⟨rfl, rfl⟩ := taken
      obtain ⟨live, consent, snapshot, decided, same⟩ := observe_launch past shown
      obtain ⟨allowed, stopped, seen⟩ := observe_stream
        ((shown.map RemoteQuitLabel.launch).foldl QuitHistory.observe past) streamed
      refine ⟨⟨permitted.append allowed, ?_⟩, ?_⟩
      · rw [List.foldl_append, seen, same]
        exact consistent.finished free rfl rfl rfl
      · rw [quitStreamTrace_append, quitStreamTrace_launch, quitStreamTrace_stream]
        exact stream.step failed

/-- Steps that neither start a session nor make a request leave the launch where it is. -/
theorem QuitConsistent.streamed {stream : StreamState} {stopped : Bool}
    (consistent : QuitConsistent state past)
    (launching : stream.launching = state.stream.launching)
    (keeps
      : state.launch.point ≠ .returned
        → stream.flags.threadRunning = true
          ∧ stream.owners = state.stream.owners
          ∧ (stopped = true → stream.flags.cancelRequested = true))
    : QuitConsistent { state with stream } { past with stopped } := by
  refine ⟨consistent.dialog.congr rfl, consistent.thread.congr rfl rfl launching rfl,
    fun running => ?_⟩
  have before := consistent.launch running
  obtain ⟨alive, owners, cancelled⟩ := keeps running
  refine ⟨alive, by rw [owners]; exact before.owners, before.live, before.selected, cancelled, ?_⟩
  have point := before.point
  show PointConsistent _ _ _ state.launch.point
  generalize state.launch.point = here at point ⊢
  cases here <;> exact point

/-- A step of the sessions keeps to the consent if what it leaves is consistent; the event it
may publish changes nothing that matters.
-/
theorem remoteStreamStep_keeps {choice : StreamChoice} {labels : List RemoteQuitLabel}
    {trace : List StreamLabel} (stream : StreamInvariant trace state.stream)
    (kept
      : ∀ later shown,
          streamStep state.stream choice = some (later, shown)
          → QuitConsistent { state with stream := later }
              ((shown.map RemoteQuitLabel.stream).foldl QuitHistory.observe past))
    (taken : state.streamStep choice = some (after, labels))
    : QuitKeeps past labels after
      ∧ StreamInvariant (trace ++ quitStreamTrace labels) after.stream := by
  simp only [RemoteQuitState.streamStep] at taken
  split at taken
  · contradiction
  · rename_i later shown stepped
    have consistent := kept later shown stepped
    have permitted := (observe_stream past shown).1
    split at taken <;> obtain ⟨rfl, rfl⟩ := taken
    · refine ⟨⟨permitted, consistent.frame rfl rfl rfl rfl rfl⟩, ?_⟩
      rw [quitStreamTrace_stream]
      exact stream.step stepped
    · refine ⟨⟨permitted, consistent⟩, ?_⟩
      rw [quitStreamTrace_stream]
      exact stream.step stepped

/-- A stop cancels the session that runs. -/
theorem StreamFlags.stop_of_running {flags : StreamFlags} (alive : flags.threadRunning = true)
    (session : Nat)
    : (flags.stop session).1.threadRunning = true
      ∧ (flags.stop session).1.cancelRequested = true := by
  unfold StreamFlags.stop
  rw [if_pos alive]
  unfold StreamFlags.interruptCommonStartupLocked
  dsimp only
  split <;> exact ⟨alive, rfl⟩

/-- A stop reaches the running session. -/
theorem stop_keeps_quit (consistent : QuitConsistent state past) {later : StreamState}
    {shown : List StreamLabel} (stepped : streamStep state.stream .stop = some (later, shown))
    : QuitConsistent { state with stream := later }
        ((shown.map RemoteQuitLabel.stream).foldl QuitHistory.observe past) := by
  obtain ⟨-, stopped, seen⟩ := observe_stream past shown
  rw [seen]
  obtain ⟨rfl, -⟩ := stepped
  refine consistent.streamed rfl fun running => ?_
  obtain ⟨alive, cancelled⟩ :=
    StreamFlags.stop_of_running (consistent.launch running).running state.stream.sessions
  exact ⟨alive, rfl, fun _ => cancelled⟩

/-- The end of a connection is no cancellation. -/
theorem terminated_keeps_quit (consistent : QuitConsistent state past) {result : Int}
    {later : StreamState} {shown : List StreamLabel}
    (stepped : streamStep state.stream (.terminated result) = some (later, shown))
    : QuitConsistent { state with stream := later }
        ((shown.map RemoteQuitLabel.stream).foldl QuitHistory.observe past) := by
  have seen
      : (shown.map RemoteQuitLabel.stream).foldl QuitHistory.observe past
        = { past with stopped := past.stopped } := by
    obtain ⟨-, rfl⟩ := stepped
    split <;> rfl
  rw [seen]
  obtain ⟨rfl, -⟩ := stepped
  refine consistent.streamed rfl fun running => ?_
  have before := consistent.launch running
  simp only [StreamFlags.onConnectionTerminated, before.running, if_true]
  exact ⟨trivial, trivial, before.cancelled⟩

/-- An owner leaves the starts alone. -/
theorem streamStep_owner_launching {state later : StreamState} {index : Nat}
    {action : OwnerAction} {shown : List StreamLabel}
    (stepped : streamStep state (.owner index action) = some (later, shown))
    : later.launching = state.launching := by
  simp only [streamStep] at stepped
  repeat' split at stepped
  all_goals first | contradiction | (obtain ⟨rfl, -⟩ := stepped; rfl)

/-- With no launch in progress an owner is free. -/
theorem owner_keeps_quit (consistent : QuitConsistent state past)
    (finished : state.launch.point = .returned) {index : Nat} {action : OwnerAction}
    {later : StreamState} {shown : List StreamLabel}
    (stepped : streamStep state.stream (.owner index action) = some (later, shown))
    : QuitConsistent { state with stream := later }
        ((shown.map RemoteQuitLabel.stream).foldl QuitHistory.observe past) := by
  obtain ⟨-, stopped, seen⟩ := observe_stream past shown
  rw [seen]
  exact consistent.streamed (streamStep_owner_launching stepped) fun running => absurd finished running

/-- A check of a launch in progress: the owner gives up or goes on to the next check. -/
theorem streamStep_check {trace : List StreamLabel} {state later : StreamState} {index : Nat}
    {checks : Nat} {shown : List StreamLabel} (invariant : StreamInvariant trace state)
    (setup : ∀ owner ∈ state.owners, owner.point = .setup checks) (early : checks < 7)
    (stepped : streamStep state (.owner index .proceed) = some (later, shown))
    : shown = []
      ∧ later.flags = state.flags
      ∧ later.launching = state.launching
      ∧ (state.flags.cancelRequested = false
        → ∀ owner ∈ later.owners, owner.point = .setup (checks + 1)) := by
  obtain ⟨point, flags, left, done, owners, -, -, -, rfl⟩ := invariant.owner_cases stepped
  obtain rfl : point = .setup checks := setup _ (owners ▸ List.mem_singleton_self _)
  simp only [ownerStep, early, if_true] at done
  cases cancelled : state.flags.cancelRequested with
  | true =>
      simp only [cancelled, if_true] at done
      obtain ⟨rfl, rfl, rfl⟩ := done
      exact ⟨rfl, rfl, rfl, fun free => absurd free (by decide)⟩
  | false =>
      simp only [cancelled, Bool.false_eq_true, if_false] at done
      obtain ⟨rfl, rfl, rfl⟩ := done
      exact ⟨rfl, rfl, rfl, fun _ => by simp⟩

/-- A launch is over before the owner's last checks. -/
theorem LaunchPoint.checks_lt (point : LaunchPoint) : point.checks < 7 := by
  cases point <;> simp [checks]

/-- What a launch that passes a check shows and knows. -/
theorem afterCheck_keeps {server : GameStreamServer Certificate}
    {launch : LaunchFrame} {point next : LaunchPoint} (live : past.live = true)
    (selected : past.selected = launch.application) (free : past.stopped = false)
    (consistent : PointConsistent server.currentGame launch past point)
    (passed : point.afterCheck server = some next)
    : next.checks = point.checks + 1
      ∧ AllPermitted QuitHistory.observe QuitHistory.Permits past
          ((point.shownByCheck server).map .launch)
      ∧ PointConsistent server.currentGame launch
          (((point.shownByCheck server).map RemoteQuitLabel.launch).foldl QuitHistory.observe past)
          next
      ∧ (((point.shownByCheck server).map RemoteQuitLabel.launch).foldl QuitHistory.observe
          past).live = true := by
  cases point with
  | created | checking | refreshed =>
      obtain rfl := Option.some.inj passed
      exact ⟨rfl, trivial, consistent, live⟩
  | unconflicted =>
      obtain rfl := Option.some.inj passed
      obtain ⟨snapshot, mine⟩ := consistent
      by_cases running : server.currentGame = 0
      · have decision : decide (server.currentGame ≠ 0) = false := by simp [running]
        rw [running] at snapshot
        simp only [LaunchPoint.shownByCheck, decision]
        exact ⟨rfl, ⟨⟨live, free, snapshot⟩, trivial⟩, ⟨rfl, snapshot⟩, live⟩
      · have decision : decide (server.currentGame ≠ 0) = true := by simp [running]
        have own := mine running
        rw [own] at snapshot running
        simp only [LaunchPoint.shownByCheck, decision]
        refine ⟨rfl, ⟨⟨live, free, ?_, selected ▸ running⟩, trivial⟩, ⟨rfl, snapshot⟩, live⟩
        exact snapshot.trans (congrArg some selected.symm)
  | entered | refreshing | comparing | quitting | verifying | generating | requesting
  | returned => exact nomatch passed

/-- A check of a launch keeps to the consent. -/
theorem checkStep_keeps {index : Nat} {next : LaunchPoint} {labels : List RemoteQuitLabel}
    {trace : List StreamLabel} (consistent : QuitConsistent state past)
    (stream : StreamInvariant trace state.stream) (running : state.launch.point ≠ .returned)
    (passed : state.launch.point.afterCheck state.server = some next)
    (taken : state.checkStep index next = some (after, labels))
    : QuitKeeps past labels after
      ∧ StreamInvariant (trace ++ quitStreamTrace labels) after.stream := by
  have before := consistent.launch running
  simp only [RemoteQuitState.checkStep] at taken
  split at taken
  · contradiction
  · rename_i later shown stepped
    obtain ⟨rfl, flags, launching, goes⟩ :=
      streamStep_check stream before.owners (LaunchPoint.checks_lt _) stepped
    have free : ∀ polling, state.thread ≠ .creating polling := by
      refine consistent.free (.inl ?_)
      simp only [streamStep] at stepped
      cases stream.phase with
      | idle _ _ owners _ | launching _ _ owners _ _ => simp [owners] at stepped
      | owned _ _ launching _ _ => exact launching
    split at taken <;> rename_i cancelled <;> obtain ⟨rfl, rfl⟩ := taken
    · refine ⟨⟨⟨trivial, trivial⟩, consistent.finished free rfl rfl rfl⟩, ?_⟩
      exact stream.step stepped
    · have unstopped : past.stopped = false := by
        cases stopped : past.stopped with
        | true => exact absurd (before.cancelled stopped) cancelled
        | false => rfl
      obtain ⟨checks, permitted, point, live⟩ :=
        afterCheck_keeps before.live before.selected unstopped before.point passed
      refine ⟨⟨permitted, ?_⟩, ?_⟩
      · have same := observe_launch past (state.launch.point.shownByCheck state.server)
        obtain ⟨_, consent, snapshot, decided, same⟩ := same
        rw [List.map_nil, List.nil_append, same]
        rw [same] at point live
        refine ⟨consistent.dialog.congr rfl, ?_, fun _ => ?_⟩
        · exact consistent.thread_free free rfl rfl
        · refine ⟨(congrArg _ flags).trans before.running, ?_, live, before.selected,
            fun stopped => absurd (stopped.symm.trans unstopped) (by decide), ?_⟩
          · have setup := goes ((Bool.not_eq_true _).mp cancelled)
            rwa [← checks] at setup
          · show PointConsistent _ _ _ next
            generalize next = here at point ⊢
            cases here <;> exact point
      · rw [List.map_nil, List.nil_append, quitStreamTrace_launch]
        exact stream.step stepped

/-- Every step of the sessions keeps to the consent. -/
theorem sessionStep_keeps {choice : StreamChoice} {labels : List RemoteQuitLabel}
    {trace : List StreamLabel} (consistent : QuitConsistent state past)
    (stream : StreamInvariant trace state.stream)
    (taken : state.sessionStep choice = some (after, labels))
    : QuitKeeps past labels after
      ∧ StreamInvariant (trace ++ quitStreamTrace labels) after.stream := by
  cases choice with
  | start | create => exact nomatch taken
  | stop =>
      exact remoteStreamStep_keeps stream (fun _ _ stepped => stop_keeps_quit consistent stepped) taken
  | terminated result =>
      exact remoteStreamStep_keeps stream
        (fun _ _ stepped => terminated_keeps_quit consistent stepped) taken
  | owner index action =>
      have owns
          : state.launch.point = .returned
            → state.streamStep (.owner index action) = some (after, labels)
            → QuitKeeps past labels after
              ∧ StreamInvariant (trace ++ quitStreamTrace labels) after.stream :=
        fun finished stepped =>
          remoteStreamStep_keeps stream (fun _ _ taken => owner_keeps_quit consistent finished taken)
            stepped
      simp only [RemoteQuitState.sessionStep] at taken
      split at taken
      · contradiction
      · rename_i owner found
        have member := List.mem_of_getElem? found
        split at taken
        · split at taken
          · rename_i finished
            exact owns finished taken
          · rename_i running
            split at taken
            · rename_i next passed
              exact checkStep_keeps consistent stream running passed taken
            · contradiction
        · contradiction
        · rename_i other _
          refine owns ?_ taken
          by_contra running
          have setup := (consistent.launch running).owners owner member
          exact other _ setup

end VitaMoonlight
