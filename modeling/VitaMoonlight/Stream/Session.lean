import VitaMoonlight.Library.Machine

/-! The stream session (`moonlight/stream_session.cpp`).
Four parties share the flags below: threads that start a session, threads that stop it, the
session's owner thread, and the streaming library that calls back. Every critical section of
`s_stream_mutex` is one step of the machine, so every interleaving of them is a run.
-/

namespace VitaMoonlight

open Library

/-- The events of a session. -/
inductive StreamEvent
  | started
  | stopped
  | failed
deriving DecidableEq

/-- What a run shows, by the number of the session it concerns. -/
inductive StreamLabel
  | admitted (session : Nat)
  | created (session : Nat)
  | notCreated (session : Nat)
  | libraryCalled (session : Nat)
  | stageStarting (session : Nat)
  | connectionStarted (session : Nat) (committed : Bool)
  | libraryReturned (session : Nat) (code : Int)
  | settled (session : Nat)
  | interrupt (session : Nat)
  | libraryStop (session : Nat)
  | event (session : Nat) (event : StreamEvent) (result : Int)
  | exited (session : Nat)
  | stop (session : Nat)
  | terminated (session : Nat)
deriving DecidableEq

def StreamLabel.session : StreamLabel → Nat
  | admitted session | created session | notCreated session | libraryCalled session
  | stageStarting session | connectionStarted session _ | libraryReturned session _
  | settled session | interrupt session | libraryStop session | event session _ _
  | exited session | stop session | terminated session => session

-----------------------------------------------------------------------------------------
-- The shared flags
-----------------------------------------------------------------------------------------

/-- The variables under `s_stream_mutex`. A callback is named by the session whose start
passed it.
-/
structure StreamFlags where
  callback : Option Nat := none
  started : Bool := false
  threadRunning : Bool := false
  stopRequested : Bool := false
  cancelRequested : Bool := false
  terminationResult : Int := 0
  commonStarting : Bool := false
  startInterruptSent : Bool := false
deriving DecidableEq

namespace StreamFlags

/-- `interrupt_common_startup_locked`. -/
def interruptCommonStartupLocked (flags : StreamFlags) (session : Nat)
    : StreamFlags × List StreamLabel :=
  if flags.commonStarting && flags.cancelRequested && !flags.started
      && !flags.startInterruptSent then
    ({ flags with startInterruptSent := true }, [.interrupt session])
  else (flags, [])

/-- `publish_common_startup`. -/
def publishCommonStartup (flags : StreamFlags) (session : Nat)
    : StreamFlags × List StreamLabel :=
  { flags with commonStarting := true }.interruptCommonStartupLocked session

/-- The critical section of `on_connection_started`, and whether it commits the start. -/
def onConnectionStarted (flags : StreamFlags) : StreamFlags × Bool :=
  ({ flags with
      commonStarting := false
      started := flags.started || !flags.cancelRequested },
    !flags.cancelRequested)

/-- `on_connection_terminated`. -/
def onConnectionTerminated (flags : StreamFlags) (result : Int) : StreamFlags :=
  if flags.threadRunning then
    { flags with terminationResult := result, stopRequested := true }
  else flags

/-- The critical section of `finish_common_startup`, and whether the startup was cancelled. -/
def finishCommonStartup (flags : StreamFlags) : StreamFlags × Bool :=
  ({ flags with commonStarting := false, startInterruptSent := false },
    flags.startInterruptSent && flags.cancelRequested && !flags.started)

/-- The admission in `moonlight_stream_start`. -/
def start (flags : StreamFlags) (session : Nat) : Option StreamFlags :=
  if flags.threadRunning then none
  else
    some { flags with
      threadRunning := true
      stopRequested := false
      cancelRequested := false
      terminationResult := 0
      commonStarting := false
      startInterruptSent := false
      callback := some session
      started := false }

/-- `moonlight_stream_start` after `pthread_create` failed. -/
def notCreated (flags : StreamFlags) : StreamFlags :=
  { flags with callback := none, threadRunning := false }

/-- `moonlight_stream_stop`. -/
def stop (flags : StreamFlags) (session : Nat) : StreamFlags × List StreamLabel :=
  if flags.threadRunning then
    let (after, interrupts) :=
      { flags with cancelRequested := true, stopRequested := true }.interruptCommonStartupLocked
        session
    (after, .stop session :: interrupts)
  else (flags, [])

end StreamFlags

-----------------------------------------------------------------------------------------
-- The owner thread
-----------------------------------------------------------------------------------------

/-- Where an owner thread is between two critical sections. -/
inductive OwnerPoint
  /-- Before `LiStartConnection`, with this many of the seven cancellation checks passed. -/
  | setup (checks : Nat)
  /-- In `LiStartConnection`; whether a stage started and `connectionStarted` was called. -/
  | calling (stage ready : Bool)
  /-- In `on_connection_started`, after its critical section committed the start. -/
  | committed
  /-- In `emit_event`, with the callback it read. -/
  | announcing (callback : Option Nat)
  /-- `LiStartConnection` has returned. -/
  | returned (code : Int)
  /-- In `finish_common_startup`, about to stop a transport that came up after a cancel. -/
  | abandoning
  /-- In the loop that waits for a stop. -/
  | active
  /-- About to stop the transport. -/
  | stopping
  /-- About to read the termination result. -/
  | stopped
  /-- About to enter `finish_stream_worker`. -/
  | finishing (event : StreamEvent) (result : Int)
  /-- In `finish_stream_worker`, with the callback it read. -/
  | publishing (callback : Option Nat) (event : StreamEvent) (result : Int)
  /-- In `finish_stream_worker`, after the callback returned. -/
  | closing
deriving DecidableEq

/-- What an owner can do next. The last three are the streaming library's. -/
inductive OwnerAction
  | proceed
  | setupFails (result : Int)
  | stageStarting
  | connectionStarted
  | returns (code : Int)
deriving DecidableEq

/-- Calling a callback, if there is one. -/
def announce (callback : Option Nat) (event : StreamEvent) (result : Int) : List StreamLabel :=
  match callback with
  | some session => [.event session event result]
  | none => []

/-- One step of an owner; no point afterwards means that the thread ends. The library keeps
its contract: a stage starts before `connectionStarted`, which is called at most once, and
only by a call that then returns 0.
-/
def ownerStep (session : Nat) (flags : StreamFlags)
    : OwnerPoint → OwnerAction → Option (StreamFlags × Option OwnerPoint × List StreamLabel)
  | .setup checks, .proceed =>
      if checks < 7 then
        if flags.cancelRequested then some (flags, some (.finishing .failed (-7)), [])
        else some (flags, some (.setup (checks + 1)), [])
      else some (flags, some (.calling false false), [.libraryCalled session])
  | .setup checks, .setupFails result =>
      -- The errors of load_launch_session, which runs from the first check to the fifth.
      if 1 ≤ checks ∧ checks ≤ 4 ∧ result ≠ 0 then
        some (flags, some (.finishing .failed result), [])
      else none
  | .calling _ ready, .stageStarting =>
      let (after, interrupts) := flags.publishCommonStartup session
      some (after, some (.calling true ready), .stageStarting session :: interrupts)
  | .calling true false, .connectionStarted =>
      let (after, commits) := flags.onConnectionStarted
      let next := if commits then .committed else .calling true true
      some (after, some next, [.connectionStarted session commits])
  | .committed, .proceed => some (flags, some (.announcing flags.callback), [])
  | .announcing callback, .proceed =>
      some (flags, some (.calling true true), announce callback .started 0)
  | .calling _ ready, .returns code =>
      if ready = true ∧ code ≠ 0 then none
      else some (flags, some (.returned code), [.libraryReturned session code])
  | .returned code, .proceed =>
      let (after, cancelled) := flags.finishCommonStartup
      let next :=
        if cancelled then if code = 0 then .abandoning else .finishing .failed (-7)
        else if code = 0 then .active
        else .finishing .failed code
      some (after, some next, [.settled session])
  | .abandoning, .proceed =>
      some (flags, some (.finishing .failed (-7)), [.libraryStop session])
  | .active, .proceed =>
      if flags.stopRequested || flags.cancelRequested then some (flags, some .stopping, [])
      else some (flags, some .active, [])
  | .stopping, .proceed => some (flags, some .stopped, [.libraryStop session])
  | .stopped, .proceed =>
      some (flags, some (.finishing .stopped flags.terminationResult), [])
  | .finishing event result, .proceed =>
      some ({ flags with started := false },
        some (.publishing flags.callback event result), [])
  | .publishing callback event result, .proceed =>
      some (flags, some .closing, announce callback event result)
  | .closing, .proceed =>
      some ({ flags with stopRequested := false, cancelRequested := false, threadRunning := false },
        none, [.exited session])
  | _, _ => none

-----------------------------------------------------------------------------------------
-- The machine
-----------------------------------------------------------------------------------------

/-- A thread that runs `stream_thread_main` for a session. -/
structure StreamOwner where
  session : Nat
  point : OwnerPoint
deriving DecidableEq

/-- The flags, the number of sessions admitted so far, the starts that have yet to create
their owner, and the owners.
-/
structure StreamState where
  flags : StreamFlags := {}
  sessions : Nat := 0
  launching : List Nat := []
  owners : List StreamOwner := []
deriving DecidableEq

/-- The next step of some party. -/
inductive StreamChoice
  | start
  | create (index : Nat) (succeeds : Bool)
  | stop
  | terminated (result : Int)
  | owner (index : Nat) (action : OwnerAction)

/-- One step of the machine. -/
def streamStep (state : StreamState) : StreamChoice → Option (StreamState × List StreamLabel)
  | .start =>
      let session := state.sessions + 1
      match state.flags.start session with
      | none => some (state, [])
      | some flags =>
          some ({ state with
              flags
              sessions := session
              launching := state.launching ++ [session] },
            [.admitted session])
  | .create index succeeds =>
      match state.launching[index]? with
      | none => none
      | some session =>
          if succeeds then
            some ({ state with
                launching := state.launching.eraseIdx index
                owners := state.owners ++ [⟨session, .setup 0⟩] },
              [.created session])
          else
            some ({ state with
                flags := state.flags.notCreated
                launching := state.launching.eraseIdx index },
              [.notCreated session])
  | .stop =>
      let (flags, labels) := state.flags.stop state.sessions
      some ({ state with flags }, labels)
  | .terminated result =>
      some ({ state with flags := state.flags.onConnectionTerminated result },
        if state.flags.threadRunning then [.terminated state.sessions] else [])
  | .owner index action =>
      match state.owners[index]? with
      | none => none
      | some owner =>
          match ownerStep owner.session state.flags owner.point action with
          | none => none
          | some (flags, some point, labels) =>
              some ({ state with
                  flags
                  owners := state.owners.set index ⟨owner.session, point⟩ },
                labels)
          | some (flags, none, labels) =>
              some ({ state with flags, owners := state.owners.eraseIdx index }, labels)

/-- The machine of all sessions, from the state of a fresh process. -/
def streamMachine : Machine StreamState StreamChoice StreamLabel where
  initial state := state = {}
  step := streamStep

end VitaMoonlight
