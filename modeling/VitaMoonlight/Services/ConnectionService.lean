import VitaMoonlight.Types

/-! The foreground operation and the dialogs of `services/connection_service.cpp`.
All of it runs on the main thread. What the system's dialogs answer is passed in; a started
application is left to the caller, which runs it in several steps.
-/

namespace VitaMoonlight

open Library

-----------------------------------------------------------------------------------------
-- The service
-----------------------------------------------------------------------------------------

/-- `ConnectionService::ForegroundOperation`. -/
inductive ForegroundOperation
  | none
  | connect
  | applications
  | launch
deriving DecidableEq

/-- The members of `ConnectionService` except its references and the connecting address. -/
structure ConnectionService where
  progressDialogSlot : Int := -1
  errorDialogOpen : Bool := false
  errorPending : Bool := false
  confirmApplicationId : Int := 0
  confirmRunningId : Int := 0
  dialogTaskRegistered : Bool := false
  operation : ForegroundOperation := .none
  workerDone : Bool := false
  workerResult : Int := 0
  errorMessage : CharArray 512 := .empty
deriving DecidableEq

/-- What `sceMsgDialogInit` answers. -/
inductive DialogInit
  | opened
  | busy
  | failed
deriving DecidableEq

/-- What one round of `DialogPollTask` meets: the answer of `sceMsgDialogInit` if it is
called, whether the dialog is finished, whether the answer read from it is YES (`none` if it
cannot be read) and whether `sceMsgDialogTerm` succeeds.
-/
structure DialogPoll where
  init : DialogInit := .opened
  finished : Bool := false
  answer : Option Bool := none
  terminated : Bool := true

/-- An upper-case hexadecimal digit. -/
def upperHexDigit (digit : Nat) : UInt8 := UInt8.ofNat (if digit < 10 then 48 + digit else 55 + digit)

/-- What `%08X` prints. -/
def hexWord (word : UInt32) : List UInt8 :=
  (List.range 8).map fun position => upperHexDigit (word.toNat / 16 ^ (7 - position) % 16)

/-- `completes_operation`. -/
def completesOperation : ForegroundOperation → MoonlightEventType → Bool
  | .connect, type => type == .connectionReady || type == .connectionFailed
  | .applications, type => type == .applicationsReady || type == .applicationsFailed
  | .launch, type => type == .streamStarted || type == .streamFailed || type == .streamStopped
  | .none, _ => false

/-- The question behind a remote quit. -/
def quitQuestion : CString :=
  .ofLiteral ("Another application is running on the PC. Quit it and start the selected "
    ++ "application? Any unsaved progress will be lost. This also ends other streaming sessions.")

/-- `MOONLIGHT_STREAM_APP_CONFLICT`. -/
def streamAppConflict : Int := -8

/-- `MOONLIGHT_STREAM_QUIT_FAILED`. -/
def streamQuitFailed : Int := -14

namespace ConnectionService

/-- `IsBusy`. -/
def isBusy (service : ConnectionService) : Bool :=
  service.operation != .none || service.progressDialogSlot ≥ 0 || service.errorDialogOpen
    || service.errorPending

-----------------------------------------------------------------------------------------
-- Errors and operations
-----------------------------------------------------------------------------------------

/-- `ShowError`: a message that is shown or about to be is not replaced. -/
def showError (service : ConnectionService) (message : CString) (result : Int)
    : ConnectionService :=
  if service.errorPending || service.errorDialogOpen then service
  else
    { service with
      errorMessage :=
        if result ≠ 0 then
          .copy 512 (.ofBytes (message.bytes ++ [32, 40, 48, 120] ++ hexWord (UInt32.ofInt result)
            ++ [41]))
        else .copy 512 message
      errorPending := true
      dialogTaskRegistered := true }

/-- `ShowConnectionError`. -/
def showConnectionError (service : ConnectionService) : ConnectionService :=
  service.showError
    (.ofLiteral "Unable to connect to PC. Check the address, network connection and Sunshine.") 0

/-- `BeginOperation`, with `StartWaitDialog`; `slot` is the dialog's slot or the error of
opening it.
-/
def beginOperation (service : ConnectionService) (operation : ForegroundOperation) (slot : Int)
    : ConnectionService × Int :=
  if operation = .none ∨ service.isBusy then (service, -1)
  else
    let begun := { service with operation, workerDone := false, workerResult := 0 }
    if slot < 0 then ({ begun with operation := .none }, slot)
    else ({ begun with progressDialogSlot := slot, dialogTaskRegistered := true }, 0)

/-- `CloseWaitDialog`. -/
def closeWaitDialog (service : ConnectionService) : ConnectionService :=
  { service with progressDialogSlot := -1 }

/-- `FinishUnstartedOperation`. -/
def finishUnstartedOperation (service : ConnectionService) : ConnectionService :=
  let closed := { service.closeWaitDialog with operation := .none }
  if service.operation = .connect then closed.showConnectionError else closed

/-- `ConfirmQuitAndStart`. -/
def confirmQuitAndStart (service : ConnectionService) (applicationId runningApplicationId : Int)
    : ConnectionService :=
  if applicationId ≤ 0 ∨ runningApplicationId ≤ 0 ∨ applicationId = runningApplicationId
      ∨ service.isBusy then
    service.showError
      (.ofLiteral "Another application is running on the PC. Close it and try again.") 0
  else
    { service.showError quitQuestion 0 with
      confirmApplicationId := applicationId
      confirmRunningId := runningApplicationId }

/-- `PrepareCompletion`: whether the event may be taken off the queue. -/
def prepareCompletion {Address : Type} (service : ConnectionService)
    (event : MoonlightEvent Address)
    : ConnectionService × Bool :=
  if !completesOperation service.operation event.type then (service, true)
  else if service.operation ≠ .launch ∧ !service.workerDone then (service, false)
  else
    let finished := { service.closeWaitDialog with operation := .none }
    if service.operation = .connect ∧ event.type = .connectionFailed then
      (finished.showConnectionError, true)
    else if service.operation = .launch ∧ event.type = .streamFailed then
      if event.result = streamAppConflict ∧ event.runningApplicationId > 0
          ∧ event.runningApplicationId ≠ event.applicationId then
        (finished.confirmQuitAndStart event.applicationId event.runningApplicationId, true)
      else if event.result = streamQuitFailed then
        (finished.showError
          (.ofLiteral ("Unable to quit the running application. Close it on the PC or "
            ++ "from the device that started it, then try again.")) event.result, true)
      else (finished.showError (.ofLiteral "Unable to start stream.") event.result, true)
    else (finished, true)

/-- `RecordWorkerResult`. -/
def recordWorkerResult (service : ConnectionService) (result : Int) : ConnectionService :=
  { service with workerResult := result, workerDone := true }

/-- `GetCompletedJobEvent`; `address` is the address of the last connection attempt. -/
def getCompletedJobEvent {Address : Type} (service : ConnectionService) (address : Address)
    : Option (MoonlightEvent Address) :=
  if !service.workerDone then none
  else
    let event := fun type : MoonlightEventType =>
      ({ type, hostId := -1, applicationId := -1, result := service.workerResult }
        : MoonlightEvent Address)
    match service.operation with
    | .connect =>
        some { event (if service.workerResult = 0 then .connectionReady else .connectionFailed) with
          address := some address }
    | .applications =>
        some (event (if service.workerResult ≥ 0 then .applicationsReady else .applicationsFailed))
    | .none | .launch => none

-----------------------------------------------------------------------------------------
-- Dialogs
-----------------------------------------------------------------------------------------

/-- The applications that the message is about to ask for, or asks for: YES and NO are
offered for these, OK for every other message.
-/
def asked (service : ConnectionService) : Option (Int × Int) :=
  if service.confirmApplicationId > 0 then
    some (service.confirmApplicationId, service.confirmRunningId)
  else none

/-- Forgets what a dialog asked for. -/
def clearConfirmation (service : ConnectionService) : ConnectionService :=
  { service with confirmApplicationId := 0, confirmRunningId := 0 }

/-- `TryShowError`, and whether it opens a dialog. -/
def tryShowError (service : ConnectionService) (init : DialogInit) : ConnectionService × Bool :=
  if !service.errorPending || service.progressDialogSlot ≥ 0 || service.errorDialogOpen then
    (service, false)
  else
    match init with
    | .opened => ({ service with errorPending := false, errorDialogOpen := true }, true)
    | .busy => (service, false)
    | .failed => ({ service with errorPending := false }.clearConfirmation, false)

/-- The part of `DialogPollTask` that reads a dialog that is open: once it is finished, the
service without it and whether the user confirmed what it asked.
-/
def readDialog (service : ConnectionService) (poll : DialogPoll)
    : Option (ConnectionService × Bool) :=
  if !poll.finished || !poll.terminated then none
  else
    some
      ({ service with errorDialogOpen := false, errorMessage := .empty }.clearConfirmation,
        decide (service.confirmApplicationId > 0) && poll.answer == some true)

/-- The end of `DialogPollTask`. -/
def unregisterIdle (service : ConnectionService) : ConnectionService :=
  if service.progressDialogSlot < 0 ∧ !service.errorPending ∧ !service.errorDialogOpen then
    { service with dialogTaskRegistered := false }
  else service

/-- `Shutdown`. -/
def shutdown (service : ConnectionService) : ConnectionService :=
  { service.closeWaitDialog.clearConfirmation with
    errorDialogOpen := false
    errorPending := false
    operation := .none
    errorMessage := .empty
    dialogTaskRegistered := false }

/-- `Connect` up to the job; `enqueued` tells whether there is a queue that takes it. -/
def connect (service : ConnectionService) (host : MoonlightHost) (slot : Int) (enqueued : Bool)
    : ConnectionService :=
  if host.internal.isEmpty then service.showConnectionError
  else
    match service.beginOperation .connect slot with
    | (begun, 0) => if enqueued then begun else begun.finishUnstartedOperation
    | (idle, result) =>
        if idle.isBusy then idle
        else idle.showError (.ofLiteral "Unable to open the progress dialog.") result

/-- The rest of `StartConfirmed` once `StartApplication` has returned. -/
def startReturned (service : ConnectionService) (result : Int) : ConnectionService :=
  if result ≠ 0 then service.finishUnstartedOperation else service

/-- The rest of `DialogPollTask` once `StartConfirmed` has returned. -/
def confirmedReturned (service : ConnectionService) (result : Int) : ConnectionService :=
  let shown :=
    if result ≠ 0 then service.showError (.ofLiteral "Unable to start stream.") result
    else service
  shown.unregisterIdle

end ConnectionService

end VitaMoonlight
