import VitaMoonlight.GameStream.Xml

/-! One GameStream server and the requests that read its state
(`backend/legacy/legacy_gamestream.c`). What the network, the allocator and the cancellation
token answer to one request is an `Exchange`.
-/

namespace VitaMoonlight

open Library Library.CText

/-- `LegacyGameStreamServer`. `pinFile` is what the file at the certificate path holds;
`hasPath` tells whether there is such a path and `curl` whether the handle exists.
-/
structure GameStreamServer (Certificate : Type) where
  uniqueId : CharArray 64 := .empty
  httpsPort : UInt16 := 0
  serverMajorVersion : Int := 0
  serverInfoAppVersion : CharArray 64 := .empty
  serverInfoGfeVersion : CharArray 64 := .empty
  serverCodecModeSupport : Int := 0
  currentGame : Int := 0
  paired : Bool := false
  unsupported : Bool := false
  mac : CharArray 18 := .empty
  hasPath : Bool := false
  pinFile : Option Certificate := none
  serverCertificate : Option Certificate := none
  curl : Bool := true

/-- How a transfer ends; `curl_easy_perform` and the HTTP status. -/
inductive TransferOutcome
  | received (body : XmlDocument)
  | outOfMemory
  | peerRejected
  | httpError (status : Int)
  | failed

/-- Everything one request meets: the token at its three checks, the allocator, the
transfer, and the parsers that read the answer, by the element they look for.
-/
structure Exchange where
  initialBuffer : Bool := true
  cancelledFirst : Bool := false
  cancelledLocked : Bool := false
  buffer : Bool := true
  configured : Bool := true
  outcome : TransferOutcome
  cancelledAfter : Bool := false
  statusFault : Option ParserFault := none
  fault : CString → Option ParserFault := fun _ => none

variable {Certificate : Type}

/-- `http_request`; `cancellable` tells whether the caller passed a token. -/
def httpRequest (server : GameStreamServer Certificate) (secure cancellable : Bool)
    (exchange : Exchange)
    : Except GameStreamError XmlDocument :=
  if cancellable && exchange.cancelledFirst then .error .cancelled
  else if !server.curl then .error .invalid
  else if cancellable && exchange.cancelledLocked then .error .cancelled
  else if secure && server.serverCertificate.isNone then .error .securityError
  else if !exchange.buffer then .error .outOfMemory
  else if !exchange.configured then .error .internalError
  else if cancellable && exchange.cancelledAfter then .error .cancelled
  else
    match exchange.outcome with
    | .received body => .ok body
    | .outOfMemory => .error .outOfMemory
    | .peerRejected => .error .securityError
    | .httpError status => .error (if status = 401 then .notPaired else .failed)
    | .failed => .error .failed

/-- A lookup in the answer of an exchange. -/
def Exchange.find (exchange : Exchange) (body : XmlDocument) (node : String) (capacity : Nat)
    : Except GameStreamError CString :=
  xmlFindValue body (exchange.fault (.ofLiteral node)) (.ofLiteral node) capacity

-----------------------------------------------------------------------------------------
-- /serverinfo
-----------------------------------------------------------------------------------------

/-- `strtol` and the checks around it for `currentgame`: an application id, or none. -/
def parseActiveId (text : CString) : Option Int :=
  let blank := fun c : UInt8 => c == 32 || c == 9 || c == 13 || c == 10
  let signed := text.bytes.dropWhile isSpace
  let negative := signed.head? == some 45
  let unsigned := if negative || signed.head? == some 43 then signed.drop 1 else signed
  let digits := unsigned.takeWhile isDigit
  let value := digitsValue 0 digits
  if digits.isEmpty then none
  else if (unsigned.drop digits.length).dropWhile blank ≠ [] then none
  else if negative then if value = 0 then some 0 else none
  else if value ≤ 2147483647 then some value else none

/-- `strcmp(state + strlen(state) - strlen(busy), busy) == 0`. -/
def isBusy (state : CString) : Bool :=
  (CString.ofLiteral "_SERVER_BUSY").bytes.isSuffixOf state.bytes

/-- The four values without which a serverinfo is incomplete. -/
structure ServerInfoValues where
  currentGame : CString
  paired : CString
  appVersion : CString
  state : CString

/-- The required lookups of `load_server_info`. -/
def requiredValues (exchange : Exchange) (body : XmlDocument) : Option ServerInfoValues :=
  match exchange.find body "currentgame" 32, exchange.find body "PairStatus" 16,
    exchange.find body "appversion" 64, exchange.find body "state" 256 with
  | .ok currentGame, .ok paired, .ok appVersion, .ok state =>
      some ⟨currentGame, paired, appVersion, state⟩
  | _, _, _, _ => none

/-- The fields `load_server_info` stores before it looks at `currentgame`. -/
def storeIdentity (server : GameStreamServer Certificate) (exchange : Exchange)
    (body : XmlDocument)
    : GameStreamServer Certificate :=
  let httpsPort :=
    match exchange.find body "HttpsPort" 16 with
    | .ok port => UInt16.ofInt (atoi port.bytes)
    | .error _ => server.httpsPort
  { server with
    uniqueId :=
      match exchange.find body "uniqueid" 64 with
      | .ok uniqueId => .copy 64 uniqueId
      | .error _ => server.uniqueId
    httpsPort := if httpsPort = 0 then 47984 else httpsPort
    mac :=
      match exchange.find body "mac" 64 with
      | .ok mac => .copy 18 mac
      | .error _ => .empty }

/-- The fields `load_server_info` stores once `currentgame` is valid. -/
def storeStatus (server : GameStreamServer Certificate) (https : Bool) (exchange : Exchange)
    (body : XmlDocument) (values : ServerInfoValues) (activeId : Int)
    : GameStreamServer Certificate :=
  { server with
    paired := https && server.serverCertificate.isSome && values.paired == .ofLiteral "1"
    currentGame := if isBusy values.state then activeId else 0
    serverInfoAppVersion := .copy 64 values.appVersion
    serverInfoGfeVersion :=
      match exchange.find body "GfeVersion" 64 with
      | .ok version => .copy 64 version
      | .error _ => server.serverInfoGfeVersion
    serverCodecModeSupport :=
      match exchange.find body "ServerCodecModeSupport" 32 with
      | .ok support => atoi support.bytes
      | .error _ => 1
    serverMajorVersion := atoi values.appVersion.bytes }

/-- `load_server_info`. -/
def loadServerInfo (server : GameStreamServer Certificate) (https cancellable : Bool)
    (exchange : Exchange)
    : GameStreamServer Certificate × Except GameStreamError Unit :=
  if !exchange.initialBuffer then (server, .error .outOfMemory)
  else
    match httpRequest server https cancellable exchange with
    | .error error => (server, .error error)
    | .ok body =>
        match (xmlStatusOk body exchange.statusFault).2 with
        | .error error => (server, .error error)
        | .ok () =>
            match requiredValues exchange body with
            | none => (server, .error .invalid)
            | some values =>
                let identified := storeIdentity server exchange body
                match parseActiveId values.currentGame with
                | none => (identified, .error .invalid)
                | some activeId =>
                    (storeStatus identified https exchange body values activeId, .ok ())

/-- `legacy_gamestream_refresh_server_info`. -/
def refreshServerInfo (server : GameStreamServer Certificate) (exchange : Exchange)
    : GameStreamServer Certificate × Except GameStreamError Unit :=
  if !server.curl || !server.paired then (server, .error .wrongState)
  else
    match loadServerInfo server true false exchange with
    | (refreshed, .ok ()) =>
        if refreshed.paired then (refreshed, .ok ()) else (refreshed, .error .wrongState)
    | (refreshed, .error error) => (refreshed, .error error)

/-- The version check that `load_server_status` and `pair` share. -/
def versionSupported (server : GameStreamServer Certificate) : Bool :=
  server.unsupported || (3 ≤ server.serverMajorVersion && server.serverMajorVersion ≤ 7)

/-- `load_server_status`, with one exchange for each request it can make. -/
def loadServerStatus (server : GameStreamServer Certificate) (plain secure fallback : Exchange)
    : GameStreamServer Certificate × Except GameStreamError Unit :=
  let first :=
    if server.httpsPort = 0 then loadServerInfo server false false plain else (server, .ok ())
  match first with
  | (known, .error error) => (known, .error error)
  | (known, .ok ()) =>
      let (loaded, result) :=
        if known.serverCertificate.isSome then
          match loadServerInfo known true false secure with
          | (revoked, .error .notPaired) => loadServerInfo revoked false false fallback
          | answered => answered
        else ({ known with paired := false }, .ok ())
      match result with
      | .error error => (loaded, .error error)
      | .ok () =>
          if versionSupported loaded then (loaded, .ok ())
          else (loaded, .error .unsupportedVersion)

end VitaMoonlight
