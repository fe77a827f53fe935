import VitaMoonlight.GameStream.Response
import VitaMoonlight.GameStream.Server

/-! Launching or resuming an application on the server: `load_launch_session` of
`moonlight/stream_session.cpp` and the remote quit of `backend/legacy/legacy_gamestream.c`.
The function runs in the session's owner and asks three times whether it was cancelled; its
course between these checks is one step for each request it makes.
-/

namespace VitaMoonlight

open Library

variable {Certificate : Type}

-----------------------------------------------------------------------------------------
-- Results and requests
-----------------------------------------------------------------------------------------

/-- The value of a `LEGACY_GAMESTREAM_*` result. -/
def GameStreamError.code : GameStreamError → Int
  | failed => -1
  | outOfMemory => -2
  | invalid => -3
  | wrongState => -4
  | ioError => -5
  | unsupportedVersion => -7
  | appConflict => -8
  | notPaired => -9
  | securityError => -10
  | cancelled => -11
  | internalError => -12
  | incorrectPin => -13
  | quitFailed => -14

/-- The value of a `MOONLIGHT_XML_*` result. -/
def XmlError.code : XmlError → Int
  | invalid => -1
  | serverError => -2
  | outOfMemory => -3

/-- An error is never taken for success. -/
theorem GameStreamError.code_ne_zero (error : GameStreamError) : error.code ≠ 0 := by
  cases error <;> simp [code]

theorem XmlError.code_ne_zero (error : XmlError) : error.code ≠ 0 := by
  cases error <;> simp [code]

/-- `legacy_gamestream_request`. -/
def gamestreamRequest (server : GameStreamServer Certificate) (exchange : Exchange)
    : Except GameStreamError XmlDocument :=
  if !exchange.initialBuffer then .error .outOfMemory
  else httpRequest server true false exchange

/-- The request reaches `curl_easy_perform`. -/
def requestSent (server : GameStreamServer Certificate) (exchange : Exchange) : Bool :=
  exchange.initialBuffer && server.curl && server.serverCertificate.isSome && exchange.buffer
    && exchange.configured

/-- An accepted refresh came over the pinned connection from a server that knows the client. -/
theorem refreshServerInfo_eq_ok {server refreshed : GameStreamServer Certificate}
    {exchange : Exchange}
    (accepted : refreshServerInfo server exchange = (refreshed, .ok ()))
    : refreshed.paired = true ∧ refreshed.serverCertificate.isSome = true := by
  simp only [refreshServerInfo] at accepted
  split at accepted
  · simp at accepted
  · split at accepted
    · rename_i loaded stored
      split at accepted
      · rename_i paired
        obtain ⟨rfl, -⟩ := accepted
        refine ⟨paired, ?_⟩
        -- Only `storeStatus` accepts, and it reads the certificate for `paired`.
        simp only [loadServerInfo] at stored
        repeat' split at stored
        all_goals simp only [Prod.mk.injEq, reduceCtorEq, and_false] at stored
        obtain ⟨rfl, -⟩ := stored
        simp only [storeStatus, Bool.true_and, Bool.and_eq_true] at paired
        exact paired.1
      · simp at accepted
    · simp at accepted

-----------------------------------------------------------------------------------------
-- The course of a launch
-----------------------------------------------------------------------------------------

/-- What a launch does on the network, and how it decides and fails. -/
inductive LaunchLabel
  | serverInfo (authenticated : Bool) (currentGame : Int)
  | cancel
  | decided (resume : Bool)
  | launch
  | resume
  | failed (result : Int)
deriving DecidableEq

/-- Where a launch is. -/
inductive LaunchPoint
  /-- Before the first check of the owner thread. -/
  | created
  | entered
  /-- Before the check ahead of the first serverinfo request. -/
  | checking
  | refreshing
  /-- Before the check behind it. -/
  | refreshed
  | comparing
  /-- In `legacy_gamestream_quit_app`, before and after its request. -/
  | quitting
  | verifying
  /-- Before the last check. -/
  | unconflicted
  | generating (resume : Bool)
  | requesting (resume : Bool)
  /-- No launch is in progress. -/
  | returned
deriving DecidableEq

/-- What a launch meets in one step. -/
inductive LaunchAction
  | proceed
  | exchange (exchange : Exchange)
  /-- Whether `sceKernelGetRandomNumber` succeeds. -/
  | random (succeeds : Bool)
  /-- The launch or resume request, and whether the URL made from the address fits. -/
  | request (exchange : Exchange) (fits : Bool)

/-- A launch goes on at a point or returns an error. -/
abbrev LaunchProgress (Certificate : Type) :=
  GameStreamServer Certificate × Except Int LaunchPoint × List LaunchLabel

/-- A launch returns an error. -/
def failLaunch (server : GameStreamServer Certificate) (result : Int) (shown : List LaunchLabel)
    : LaunchProgress Certificate :=
  (server, .error result, shown ++ [.failed result])

/-- What an accepted serverinfo shows: whether it came over the pinned connection from a
server that knows this client, and the application it reports.
-/
def shownServerInfo (server : GameStreamServer Certificate) : LaunchLabel :=
  .serverInfo (server.serverCertificate.isSome && server.paired) server.currentGame

/-- What an accepted refresh shows is authenticated. -/
theorem shownServerInfo_of_refreshed {server refreshed : GameStreamServer Certificate}
    {exchange : Exchange} (accepted : refreshServerInfo server exchange = (refreshed, .ok ()))
    : shownServerInfo refreshed = .serverInfo true refreshed.currentGame := by
  obtain ⟨paired, pinned⟩ := refreshServerInfo_eq_ok accepted
  simp [shownServerInfo, paired, pinned]

/-- `legacy_gamestream_quit_app` up to the answer of its request. -/
def quitAppRequest (server : GameStreamServer Certificate) (exchange : Exchange)
    : LaunchProgress Certificate :=
  if !server.curl || !server.paired || server.serverCertificate.isNone then
    failLaunch server GameStreamError.wrongState.code []
  else
    let shown := if requestSent server exchange then [LaunchLabel.cancel] else []
    match gamestreamRequest server exchange with
    | .error error => failLaunch server error.code shown
    | .ok body =>
        match parseCancel body exchange.statusFault with
        | (_, .ok ()) => (server, .ok .verifying, shown)
        | (response, .error error) =>
            let result :=
              match error with
              | .outOfMemory => GameStreamError.outOfMemory
              | .serverError => if response.statusCode = 401 then .notPaired else .failed
              | .invalid => .invalid
            failLaunch server result.code shown

/-- The rest of `legacy_gamestream_quit_app`: the application must be gone. -/
def quitAppVerify (server : GameStreamServer Certificate) (exchange : Exchange)
    : LaunchProgress Certificate :=
  match refreshServerInfo server exchange with
  | (refreshed, .error error) => failLaunch refreshed error.code []
  | (refreshed, .ok ()) =>
      if refreshed.currentGame ≠ 0 then
        failLaunch refreshed GameStreamError.quitFailed.code [shownServerInfo refreshed]
      else (refreshed, .ok .unconflicted, [shownServerInfo refreshed])

/-- The launch or resume request of `load_launch_session` and what follows it. -/
def requestLaunch (server : GameStreamServer Certificate) (application : Int) (resume : Bool)
    (exchange : Exchange) (fits : Bool)
    : LaunchProgress Certificate :=
  let sent := if resume then LaunchLabel.resume else .launch
  let shown := if requestSent server exchange then [sent] else []
  match gamestreamRequest server exchange with
  | .error error => failLaunch server error.code shown
  | .ok body =>
      match parseLaunch body exchange.statusFault resume with
      | (_, .error error) => failLaunch server error.code shown
      | (response, .ok ()) =>
          if !response.sessionUrlPresent && !fits then failLaunch server (-6) shown
          else ({ server with currentGame := application }, .ok .returned, shown)

/-- One step of `load_launch_session` between two checks. -/
def launchStep (server : GameStreamServer Certificate) (application quit : Int)
    : LaunchPoint → LaunchAction → Option (LaunchProgress Certificate)
  | .entered, .proceed =>
      if server.curl then some (server, .ok .checking, [])
      else some (failLaunch server (-1) [])
  | .refreshing, .exchange exchange =>
      match refreshServerInfo server exchange with
      | (refreshed, .error error) => some (failLaunch refreshed error.code [])
      | (refreshed, .ok ()) => some (refreshed, .ok .refreshed, [shownServerInfo refreshed])
  | .comparing, .proceed =>
      if server.currentGame ≠ 0 ∧ server.currentGame ≠ application then
        -- Approval applies only to the application the user was warned about.
        if quit ≠ server.currentGame then
          some (failLaunch server GameStreamError.appConflict.code [])
        else some (server, .ok .quitting, [])
      else some (server, .ok .unconflicted, [])
  | .quitting, .exchange exchange => some (quitAppRequest server exchange)
  | .verifying, .exchange exchange => some (quitAppVerify server exchange)
  | .generating resume, .random succeeds =>
      if succeeds then some (server, .ok (.requesting resume), [])
      else some (failLaunch server (-3) [])
  | .requesting resume, .request exchange fits =>
      some (requestLaunch server application resume exchange fits)
  | _, _ => none

/-- Where a launch goes on when a check finds no cancellation. -/
def LaunchPoint.afterCheck (server : GameStreamServer Certificate) : LaunchPoint → Option LaunchPoint
  | created => some entered
  | checking => some refreshing
  | refreshed => some comparing
  | unconflicted => some (generating (server.currentGame ≠ 0))
  | entered | refreshing | comparing | quitting | verifying | generating _ | requesting _
  | returned => none

/-- The decision that passing a check makes. -/
def LaunchPoint.shownByCheck (server : GameStreamServer Certificate)
    : LaunchPoint → List LaunchLabel
  | unconflicted => [.decided (server.currentGame ≠ 0)]
  | created | entered | checking | refreshing | refreshed | comparing | quitting | verifying
  | generating _ | requesting _ | returned => []

/-- How many of the owner's checks a launch at this point has passed. -/
def LaunchPoint.checks : LaunchPoint → Nat
  | created => 0
  | entered | checking => 1
  | refreshing | refreshed => 2
  | comparing | quitting | verifying | unconflicted => 3
  | generating _ | requesting _ | returned => 4

end VitaMoonlight
