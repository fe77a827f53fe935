import VitaMoonlight.GameStream.Server

/-! What an unauthenticated answer leaves in the state of an authenticated server.
The server record is filled twice, first from the plaintext answer and then from the
authenticated one, so a field leaks exactly when the second filling may leave it alone.
-/

namespace VitaMoonlight

open Library Library.CText

variable {Certificate : Type}

-----------------------------------------------------------------------------------------
-- Accepted answers
-----------------------------------------------------------------------------------------

/-- What an accepted answer holds. -/
structure AcceptedAnswer where
  body : XmlDocument
  values : ServerInfoValues
  activeId : Int

/-- The answer of an exchange, if the request and everything required of it succeeds. -/
def acceptedAnswer (server : GameStreamServer Certificate) (https : Bool) (exchange : Exchange)
    : Option AcceptedAnswer :=
  if !exchange.initialBuffer then none
  else
    match httpRequest server https false exchange with
    | .error _ => none
    | .ok body =>
        match (xmlStatusOk body exchange.statusFault).2 with
        | .error _ => none
        | .ok () =>
            match requiredValues exchange body with
            | none => none
            | some values =>
                match parseActiveId values.currentGame with
                | none => none
                | some activeId => some ⟨body, values, activeId⟩

/-- The server after an accepted answer. -/
def fill (server : GameStreamServer Certificate) (https : Bool) (exchange : Exchange)
    (answer : AcceptedAnswer)
    : GameStreamServer Certificate :=
  storeStatus (storeIdentity server exchange answer.body) https exchange answer.body
    answer.values answer.activeId

/-- A load succeeds exactly on an accepted answer, and then fills the record from it. -/
theorem loadServerInfo_eq_ok_iff (server after : GameStreamServer Certificate) (https : Bool)
    (exchange : Exchange)
    : loadServerInfo server https false exchange = (after, .ok ())
      ↔ ∃ answer,
          acceptedAnswer server https exchange = some answer
          ∧ after = fill server https exchange answer := by
  unfold loadServerInfo acceptedAnswer
  cases exchange.initialBuffer with
  | false => simp
  | true =>
      simp only [Bool.not_true, Bool.false_eq_true, if_false]
      cases httpRequest server https false exchange with
      | error error => simp
      | ok body =>
          dsimp only
          cases (xmlStatusOk body exchange.statusFault).2 with
          | error error => simp
          | ok accepted =>
              dsimp only
              cases requiredValues exchange body with
              | none => simp
              | some values =>
                  dsimp only
                  cases parseActiveId values.currentGame with
                  | none => simp
                  | some activeId => simp [fill, eq_comm]

/-- Whether an answer is accepted depends on the handle and the pinned certificate only. -/
theorem acceptedAnswer_congr {server other : GameStreamServer Certificate}
    (curl : server.curl = other.curl)
    (certificate : server.serverCertificate = other.serverCertificate) (https : Bool)
    (exchange : Exchange)
    : acceptedAnswer server https exchange = acceptedAnswer other https exchange := by
  have request : httpRequest server https false exchange = httpRequest other https false exchange := by
    simp only [httpRequest, curl, certificate]
  simp only [acceptedAnswer, request]

@[simp] theorem curl_fill (server : GameStreamServer Certificate) (https : Bool)
    (exchange : Exchange) (answer : AcceptedAnswer)
    : (fill server https exchange answer).curl = server.curl := rfl

@[simp] theorem serverCertificate_fill (server : GameStreamServer Certificate) (https : Bool)
    (exchange : Exchange) (answer : AcceptedAnswer)
    : (fill server https exchange answer).serverCertificate = server.serverCertificate := rfl

-----------------------------------------------------------------------------------------
-- The identity of a host
-----------------------------------------------------------------------------------------

/-- The identity and status that a loaded server record presents. -/
structure HostIdentity where
  uniqueId : CharArray 64
  mac : CharArray 18
  appVersion : CharArray 64
  gfeVersion : CharArray 64
  codecModeSupport : Int
  currentGame : Int
  paired : Bool
deriving DecidableEq

def GameStreamServer.identity (server : GameStreamServer Certificate) : HostIdentity where
  uniqueId := server.uniqueId
  mac := server.mac
  appVersion := server.serverInfoAppVersion
  gfeVersion := server.serverInfoGfeVersion
  codecModeSupport := server.serverCodecModeSupport
  currentGame := server.currentGame
  paired := server.paired

/-- The answer has a text for the element. -/
def Exchange.yields (exchange : Exchange) (body : XmlDocument) (node : String) (capacity : Nat)
    : Bool :=
  (exchange.find body node capacity).isOk

/-- Filling from one answer hides the fields it sets itself. -/
theorem identity_fill_congr {server other : GameStreamServer Certificate} {exchange : Exchange}
    {answer : AcceptedAnswer} {https : Bool}
    (certificate : server.serverCertificate = other.serverCertificate)
    (uniqueId
      : exchange.yields answer.body "uniqueid" 64 = true ∨ server.uniqueId = other.uniqueId)
    (gfeVersion
      : exchange.yields answer.body "GfeVersion" 64 = true
        ∨ server.serverInfoGfeVersion = other.serverInfoGfeVersion)
    : (fill server https exchange answer).identity = (fill other https exchange answer).identity := by
  simp only [GameStreamServer.identity, fill, storeStatus, storeIdentity, certificate]
  simp only [Exchange.yields] at uniqueId gfeVersion
  congr 1
  · cases found : exchange.find answer.body "uniqueid" 64 with
    | ok text => rfl
    | error error => simpa [found, Except.isOk, Except.toBool] using uniqueId
  · cases found : exchange.find answer.body "GfeVersion" 64 with
    | ok text => rfl
    | error error => simpa [found, Except.isOk, Except.toBool] using gfeVersion

/-- An element the answer lacks keeps the value it had. -/
theorem uniqueId_fill {server : GameStreamServer Certificate} {exchange : Exchange}
    {answer : AcceptedAnswer} {https : Bool}
    (absent : exchange.yields answer.body "uniqueid" 64 = false)
    : (fill server https exchange answer).uniqueId = server.uniqueId := by
  simp only [Exchange.yields] at absent
  simp only [fill, storeStatus, storeIdentity]
  cases found : exchange.find answer.body "uniqueid" 64 with
  | ok text => simp [found, Except.isOk, Except.toBool] at absent
  | error error => rfl

theorem gfeVersion_fill {server : GameStreamServer Certificate} {exchange : Exchange}
    {answer : AcceptedAnswer} {https : Bool}
    (absent : exchange.yields answer.body "GfeVersion" 64 = false)
    : (fill server https exchange answer).serverInfoGfeVersion = server.serverInfoGfeVersion := by
  simp only [Exchange.yields] at absent
  simp only [fill, storeStatus, storeIdentity]
  cases found : exchange.find answer.body "GfeVersion" 64 with
  | ok text => simp [found, Except.isOk, Except.toBool] at absent
  | error error => rfl

-----------------------------------------------------------------------------------------
-- Two runs of load_server_status
-----------------------------------------------------------------------------------------

/-- The plaintext answer is accepted when it is asked for, and leaves this HTTPS port. -/
def PlainAccepted (server : GameStreamServer Certificate) (plain : Exchange) (port : UInt16)
    : Prop :=
  if server.httpsPort = 0 then
    ∃ answer,
      acceptedAnswer server false plain = some answer
      ∧ (fill server false plain answer).httpsPort = port
  else server.httpsPort = port

/-- With an accepted authenticated answer the status is what that answer makes of the record
the plaintext answer left.
-/
theorem loadServerStatus_of_accepted {server : GameStreamServer Certificate}
    (pinned : server.serverCertificate.isSome = true) {plain secure : Exchange}
    (fallback : Exchange) {port : UInt16} (accepted : PlainAccepted server plain port)
    {answer : AcceptedAnswer} (authenticated : acceptedAnswer server true secure = some answer)
    : ∃ known,
        (loadServerStatus server plain secure fallback).1 = fill known true secure answer
        ∧ known.serverCertificate = server.serverCertificate
        ∧ (server.httpsPort = 0
            ∧ (∃ plainAnswer,
                acceptedAnswer server false plain = some plainAnswer
                ∧ known = fill server false plain plainAnswer)
          ∨ server.httpsPort ≠ 0 ∧ known = server) := by
  have second
      : ∀ known : GameStreamServer Certificate,
          known.curl = server.curl
          → known.serverCertificate = server.serverCertificate
          → loadServerInfo known true false secure
            = (fill known true secure answer, .ok ()) := by
    intro known curl certificate
    rw [loadServerInfo_eq_ok_iff]
    exact ⟨answer, (acceptedAnswer_congr curl certificate true secure).trans authenticated, rfl⟩
  by_cases blank : server.httpsPort = 0
  · simp only [PlainAccepted, blank, if_true] at accepted
    obtain ⟨plainAnswer, read, -⟩ := accepted
    have first := (loadServerInfo_eq_ok_iff server _ false plain).mpr ⟨plainAnswer, read, rfl⟩
    have next := second (fill server false plain plainAnswer) rfl rfl
    refine ⟨fill server false plain plainAnswer, ?_, rfl, .inl ⟨blank, plainAnswer, read, rfl⟩⟩
    simp only [loadServerStatus, blank, if_true, first, serverCertificate_fill, pinned, next]
    split <;> rfl
  · have next := second server rfl rfl
    refine ⟨server, ?_, rfl, .inr ⟨blank, rfl⟩⟩
    simp only [loadServerStatus, blank, if_false, pinned, if_true, next]
    split <;> rfl

/-- The identity after an accepted authenticated answer does not depend on which accepted
plaintext answer with this port came before it.
-/
def PlaintextIndependent (server : GameStreamServer Certificate) (secure : Exchange) : Prop :=
  ∀ first second fallback otherFallback port,
    PlainAccepted server first port
    → PlainAccepted server second port
    → (loadServerStatus server first secure fallback).1.identity
      = (loadServerStatus server second secure otherFallback).1.identity

-----------------------------------------------------------------------------------------
-- A plaintext answer that states an identity
-----------------------------------------------------------------------------------------

/-- An element with a text. -/
def xmlElement (name text : String) : List XmlEvent :=
  [.startElement (.ofLiteral name) [], .characterData (CString.ofLiteral text).bytes,
    .endElement (.ofLiteral name)]

/-- A body with a status and elements. -/
def xmlBody (elements : List (String × String)) : XmlDocument where
  events :=
    .startElement (.ofLiteral "root") [(.ofLiteral "status_code", .ofLiteral "200")]
      :: elements.flatMap (fun element => xmlElement element.1 element.2)
      ++ [.endElement (.ofLiteral "root")]
  wellFormed := true

/-- The elements every accepted answer has, for an idle server. -/
def idleElements : List (String × String) :=
  [("currentgame", "0"), ("PairStatus", "1"), ("appversion", "7.1"), ("state", "SERVER_FREE")]

/-- Two bodies that claim different unique ids and GFE versions. -/
def claimBody (which : Bool) : XmlDocument :=
  xmlBody (idleElements
    ++ [("uniqueid", if which then "A" else "B"), ("GfeVersion", if which then "1" else "2")])

/-- The plaintext answers with these bodies. -/
def claim (which : Bool) : Exchange where
  outcome := .received (claimBody which)

/-- What is read from such an answer. -/
def claimedAnswer (which : Bool) : AcceptedAnswer where
  body := claimBody which
  values := ⟨.ofLiteral "0", .ofLiteral "1", .ofLiteral "7.1", .ofLiteral "SERVER_FREE"⟩
  activeId := 0

/-- Both claims are accepted by any server that has a handle. -/
theorem acceptedAnswer_claim {server : GameStreamServer Certificate}
    (curl : server.curl = true) (which : Bool)
    : acceptedAnswer server false (claim which) = some (claimedAnswer which) := by
  have status : (xmlStatusOk (claimBody which) none).2 = .ok () := by
    cases which <;> rfl
  have values
      : requiredValues (claim which) (claimBody which) = some (claimedAnswer which).values := by
    cases which <;> rfl
  have active : parseActiveId (claimedAnswer which).values.currentGame = some 0 := by
    cases which <;> rfl
  have request : httpRequest server false false (claim which) = .ok (claimBody which) := by
    simp [httpRequest, curl, claim]
  rw [acceptedAnswer, request]
  simp only [claim, Bool.not_true, Bool.false_eq_true, if_false] at values ⊢
  simp only [status, values, active]
  rfl

/-- The record after a claim. -/
theorem fill_claim {server : GameStreamServer Certificate} (blank : server.httpsPort = 0)
    (which : Bool)
    : (fill server false (claim which) (claimedAnswer which)).httpsPort = 47984
      ∧ (fill server false (claim which) (claimedAnswer which)).uniqueId
        = .copy 64 (.ofLiteral (if which then "A" else "B"))
      ∧ (fill server false (claim which) (claimedAnswer which)).serverInfoGfeVersion
        = .copy 64 (.ofLiteral (if which then "1" else "2")) := by
  have absent
      : (claim which).find (claimedAnswer which).body "HttpsPort" 16 = .error .invalid := by
    cases which <;> rfl
  refine ⟨?_, ?_, ?_⟩
  · simp [fill, storeStatus, storeIdentity, absent, blank]
  all_goals cases which <;> rfl

theorem plainAccepted_claim {server : GameStreamServer Certificate}
    (curl : server.curl = true) (blank : server.httpsPort = 0) (which : Bool)
    : PlainAccepted server (claim which) 47984 := by
  rw [PlainAccepted, if_pos blank]
  exact ⟨claimedAnswer which, acceptedAnswer_claim curl which, (fill_claim blank which).1⟩

/-- An answer is accepted only over a handle. -/
theorem curl_of_acceptedAnswer {server : GameStreamServer Certificate} {https : Bool}
    {exchange : Exchange} {answer : AcceptedAnswer}
    (accepted : acceptedAnswer server https exchange = some answer)
    : server.curl = true := by
  cases handle : server.curl with
  | true => rfl
  | false =>
      simp only [acceptedAnswer, httpRequest, handle, Bool.false_and, Bool.false_eq_true,
        if_false, Bool.not_false, if_true] at accepted
      split at accepted <;> contradiction

-----------------------------------------------------------------------------------------
-- When the identity is independent
-----------------------------------------------------------------------------------------

/-- The authenticated answer states every field that it does not clear itself. -/
def StatesIdentity (secure : Exchange) (answer : AcceptedAnswer) : Prop :=
  secure.yields answer.body "uniqueid" 64 = true
  ∧ secure.yields answer.body "GfeVersion" 64 = true

theorem plaintextIndependent_of_states {server : GameStreamServer Certificate}
    (pinned : server.serverCertificate.isSome = true) {secure : Exchange}
    {answer : AcceptedAnswer} (authenticated : acceptedAnswer server true secure = some answer)
    (decided : server.httpsPort ≠ 0 ∨ StatesIdentity secure answer)
    : PlaintextIndependent server secure := by
  intro first second fallback otherFallback port acceptedFirst acceptedSecond
  obtain ⟨known, same, certificate, origin⟩ :=
    loadServerStatus_of_accepted pinned fallback acceptedFirst authenticated
  obtain ⟨other, sameOther, otherCertificate, otherOrigin⟩ :=
    loadServerStatus_of_accepted pinned otherFallback acceptedSecond authenticated
  rw [same, sameOther]
  have certificates := certificate.trans otherCertificate.symm
  rcases decided with running | ⟨uniqueId, gfeVersion⟩
  · obtain ⟨-, rfl⟩ := origin.resolve_left fun blank => running blank.1
    obtain ⟨-, rfl⟩ := otherOrigin.resolve_left fun blank => running blank.1
    rfl
  · exact identity_fill_congr certificates (.inl uniqueId) (.inl gfeVersion)

/-- A field the authenticated answer lacks tells two plaintext claims apart. -/
theorem states_of_plaintextIndependent {server : GameStreamServer Certificate}
    (pinned : server.serverCertificate.isSome = true) {secure : Exchange}
    {answer : AcceptedAnswer} (authenticated : acceptedAnswer server true secure = some answer)
    (independent : PlaintextIndependent server secure)
    : server.httpsPort ≠ 0 ∨ StatesIdentity secure answer := by
  by_cases blank : server.httpsPort = 0
  · right
    have curl := curl_of_acceptedAnswer authenticated
    have final
        : ∀ which fallback,
            ∃ known,
              (loadServerStatus server (claim which) secure fallback).1
                = fill known true secure answer
              ∧ known.uniqueId = .copy 64 (.ofLiteral (if which then "A" else "B"))
              ∧ known.serverInfoGfeVersion = .copy 64 (.ofLiteral (if which then "1" else "2")) := by
      intro which fallback
      obtain ⟨known, loaded, -, origin⟩ := loadServerStatus_of_accepted pinned fallback
        (plainAccepted_claim curl blank which) authenticated
      obtain ⟨-, plainAnswer, read, rfl⟩ := origin.resolve_right fun running => running.1 blank
      obtain rfl := Option.some.inj (read.symm.trans (acceptedAnswer_claim curl which))
      exact ⟨_, loaded, (fill_claim blank which).2⟩
    have same := independent (claim true) (claim false) secure secure 47984
      (plainAccepted_claim curl blank true) (plainAccepted_claim curl blank false)
    obtain ⟨first, loadedFirst, firstId, firstVersion⟩ := final true secure
    obtain ⟨second, loadedSecond, secondId, secondVersion⟩ := final false secure
    rw [loadedFirst, loadedSecond] at same
    constructor
    · by_contra absent
      have ids := congrArg HostIdentity.uniqueId same
      simp only [GameStreamServer.identity, uniqueId_fill (Bool.not_eq_true _ ▸ absent),
        firstId, secondId] at ids
      exact absurd ids (by decide)
    · by_contra absent
      have versions := congrArg HostIdentity.gfeVersion same
      simp only [GameStreamServer.identity, gfeVersion_fill (Bool.not_eq_true _ ▸ absent),
        firstVersion, secondVersion] at versions
      exact absurd versions (by decide)
  · exact .inl blank

/-- With a pinned certificate and an accepted authenticated answer, the resulting identity
is independent of the plaintext answer exactly when no plaintext answer is asked for or
the authenticated one states the unique id and the GFE version.
-/
theorem plaintextIndependent_iff {server : GameStreamServer Certificate}
    (pinned : server.serverCertificate.isSome = true) {secure : Exchange}
    {answer : AcceptedAnswer} (authenticated : acceptedAnswer server true secure = some answer)
    : PlaintextIndependent server secure
      ↔ server.httpsPort ≠ 0 ∨ StatesIdentity secure answer :=
  ⟨states_of_plaintextIndependent pinned authenticated,
    plaintextIndependent_of_states pinned authenticated⟩

/-- A freshly initialised server with a pinned certificate. -/
def freshServer : GameStreamServer Nat := { serverCertificate := some 1, unsupported := true }

/-- An authenticated answer with every element states the identity. -/
theorem plaintextIndependent_of_full_answer : PlaintextIndependent freshServer (claim true) := by
  have exact_when
      : PlaintextIndependent freshServer (claim true)
        ↔ freshServer.httpsPort ≠ 0 ∨ StatesIdentity (claim true) (claimedAnswer true) :=
    plaintextIndependent_iff rfl rfl
  exact exact_when.mpr (.inr ⟨by decide, by decide⟩)

/-- An authenticated answer without a unique id leaves the one a plaintext answer claimed. -/
theorem not_always_plaintextIndependent
    : ¬∀ (server : GameStreamServer Nat) secure answer,
        server.serverCertificate.isSome = true
        → acceptedAnswer server true secure = some answer
        → PlaintextIndependent server secure := by
  intro law
  have independent := law freshServer { outcome := .received (xmlBody idleElements) } _ rfl rfl
  have states := states_of_plaintextIndependent rfl rfl independent
  revert states
  rw [StatesIdentity]
  decide

end VitaMoonlight
