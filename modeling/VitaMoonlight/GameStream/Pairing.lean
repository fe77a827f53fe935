import VitaMoonlight.GameStream.Server

/-! The pairing protocol (`pair` in `backend/legacy/legacy_gamestream.c`).
Hashes, ciphers, certificates and signatures are opaque functions; what the network, the
random generator, the allocator and the file system do is one environment per call.
-/

namespace VitaMoonlight

open Library Library.CText

-----------------------------------------------------------------------------------------
-- The environment of one pairing
-----------------------------------------------------------------------------------------

/-- The cryptography that pairing calls. -/
structure PairingCrypto (Certificate : Type) where
  sha256 : List UInt8 → List UInt8
  sha1 : List UInt8 → List UInt8
  encrypt : List UInt8 → List UInt8 → List UInt8
  decrypt : List UInt8 → List UInt8 → List UInt8
  readCertificate : CString → Option Certificate
  certificateSignature : Certificate → List UInt8
  verify : Certificate → List UInt8 → List UInt8 → Bool
  sign : List UInt8 → List UInt8

/-- The requests of the protocol with what they carry; the last is the only secure one and
requires its peer to hold the given certificate.
-/
inductive PairRequest (Certificate : Type)
  | getServerCert (salt : List UInt8)
  | clientChallenge (challenge : List UInt8)
  | serverChallengeResp (response : List UInt8)
  | clientPairingSecret (secret : List UInt8)
  | pairChallenge (peer : Option Certificate)

/-- The calls into the cryptographic library that can fail to execute. -/
inductive CryptoStep
  | encryptChallenge
  | decryptResponse
  | encryptResponse
  | verifySignature
  | certificateSignature
  | signSecret
  | readCandidate
deriving DecidableEq

/-- How they fail to execute. -/
inductive ExecutionFault
  | outOfMemory
  | internalError
deriving DecidableEq

def ExecutionFault.result : ExecutionFault → GameStreamError
  | outOfMemory => .outOfMemory
  | internalError => .internalError

/-- Everything one call of `pair` meets. `RAND_bytes` fails where there is no value;
`clientSignature` is the signature in the client's own certificate.
-/
structure PairEnvironment (Certificate : Type) where
  initialBuffer : Bool := true
  salt : Option (List UInt8)
  challenge : Option (List UInt8)
  clientSecret : Option (List UInt8)
  clientSignature : Option (List UInt8)
  fault : CryptoStep → Option ExecutionFault := fun _ => none
  network : PairRequest Certificate → Exchange
  pinSaved : Bool := true
  cancelledBeforeRefresh : Nat → Bool := fun _ => false
  refresh : Nat → Exchange

/-- Why a pairing failed: the result and what the server said, if it answered with an error. -/
structure PairingFailure where
  result : GameStreamError
  error : PairingError := {}
deriving DecidableEq

abbrev Paired := Except PairingFailure

/-- Stop with a result that the server said nothing about. -/
def refuse {α : Type} (result : GameStreamError) : Paired α := .error { result }

/-- The value of a hexadecimal digit. -/
def hexDigit (c : UInt8) : Option Nat :=
  if 48 ≤ c ∧ c ≤ 57 then some (c.toNat - 48)
  else if 97 ≤ c ∧ c ≤ 102 then some (c.toNat - 87)
  else if 65 ≤ c ∧ c ≤ 70 then some (c.toNat - 55)
  else none

/-- `sscanf(text, "%2x", &byte)` into a zeroed byte: blanks are skipped, then at most two
characters are read, the first of which may be a sign.
-/
def scanHexByte (text : List UInt8) : UInt8 :=
  match (text.dropWhile isSpace).take 2 with
  | [] => 0
  | first :: rest =>
      let next := rest.head?.bind hexDigit
      if first = 43 then UInt8.ofNat (next.getD 0)
      else if first = 45 then UInt8.ofNat (256 - next.getD 0)
      else
        match hexDigit first, next with
        | none, _ => 0
        | some high, some low => UInt8.ofNat (16 * high + low)
        | some high, none => UInt8.ofNat high

/-- The bytes that pairing reads from a text of hexadecimal digits. -/
def hexDecode (text : CString) : List UInt8 :=
  (List.range (text.length / 2)).map fun idx => scanHexByte (text.bytes.drop (2 * idx))

variable {Certificate : Type}

/-- The element that tells whether the server still pairs with this client. -/
def pairedText : CString := .ofLiteral "1"

/-- `read_pairing_response`. -/
def readPairingResponse (exchange : Exchange) (body : XmlDocument)
    (field : Option (String × Nat))
    : Paired CString :=
  match xmlStatusOk body exchange.statusFault with
  | (error, .error result) => .error { result, error }
  | (_, .ok ()) =>
      match exchange.find body "paired" 8 with
      | .error result => refuse result
      | .ok paired =>
          if paired ≠ pairedText then refuse .failed
          else
            match field with
            | none => .ok .empty
            | some (node, capacity) =>
                match exchange.find body node capacity with
                | .error result => refuse result
                | .ok text => .ok text

/-- The request is the only one made over TLS. -/
def PairRequest.secure : PairRequest Certificate → Bool
  | pairChallenge _ => true
  | _ => false

/-- Make a request and read its answer. -/
def exchangePairing (env : PairEnvironment Certificate) (server : GameStreamServer Certificate)
    (request : PairRequest Certificate) (field : Option (String × Nat))
    : Paired CString :=
  match httpRequest server request.secure true (env.network request) with
  | .error result => refuse result
  | .ok body => readPairingResponse (env.network request) body field

/-- The library call executes. -/
def execute (env : PairEnvironment Certificate) (step : CryptoStep) : Paired Unit :=
  match env.fault step with
  | some fault => refuse fault.result
  | none => .ok ()

/-- A value of the random generator. -/
def random (value : Option (List UInt8)) : Paired (List UInt8) :=
  match value with
  | some bytes => .ok bytes
  | none => refuse .internalError

/-- Go on only under a condition. -/
def require (condition : Bool) (result : GameStreamError) : Paired Unit :=
  if condition then .ok () else refuse result

-----------------------------------------------------------------------------------------
-- The protocol up to the candidate certificate
-----------------------------------------------------------------------------------------

/-- The length of the hash that the server's version uses. -/
def hashLength (server : GameStreamServer Certificate) : Nat :=
  if server.serverMajorVersion ≥ 7 then 32 else 20

/-- The hash that the server's version uses. -/
def pairingHash (crypto : PairingCrypto Certificate) (server : GameStreamServer Certificate)
    (data : List UInt8)
    : List UInt8 :=
  if hashLength server = 32 then crypto.sha256 data else crypto.sha1 data

/-- The AES key from the salt and the PIN: the first 16 bytes of the hash. -/
def pairingKey (crypto : PairingCrypto Certificate) (server : GameStreamServer Certificate)
    (salt : List UInt8) (pin : CString)
    : List UInt8 :=
  (pairingHash crypto server (salt ++ pin.bytes)).take 16

/-- `read_pairing_certificate`. -/
def readPairingCertificate (crypto : PairingCrypto Certificate)
    (env : PairEnvironment Certificate) (step : CryptoStep) (pem : CString)
    : Paired Certificate := do
  execute env step
  match crypto.readCertificate pem with
  | some certificate => .ok certificate
  | none => refuse .securityError

/-- The first step: the salt goes out and the server's certificate text comes back. -/
def getServerCert (env : PairEnvironment Certificate) (server : GameStreamServer Certificate)
    (salt : List UInt8)
    : Paired CString := do
  let text ← exchangePairing env server (.getServerCert salt) (some ("plaincert", 8192))
  require (text.length % 2 == 0 && text.length / 2 < 8192) .invalid
  .ok (.ofBytes (hexDecode text))

/-- The second step: the server's decrypted answer to the client's challenge. -/
def clientChallenge (crypto : PairingCrypto Certificate) (env : PairEnvironment Certificate)
    (server : GameStreamServer Certificate) (key challenge : List UInt8)
    : Paired (List UInt8) := do
  execute env .encryptChallenge
  let text ← exchangePairing env server (.clientChallenge (crypto.encrypt key challenge))
    (some ("challengeresponse", 8192))
  let length := text.length / 2
  require (text.length % 2 == 0 && hashLength server + 16 ≤ length && length ≤ 64
    && length % 16 == 0) .invalid
  execute env .decryptResponse
  .ok (crypto.decrypt key (hexDecode text))

/-- The client's answer to the server's challenge, padded to the hash input's size. -/
def challengeAnswer (crypto : PairingCrypto Certificate) (server : GameStreamServer Certificate)
    (response clientSignature clientSecret : List UInt8)
    : List UInt8 :=
  let input := (response.drop (hashLength server)).take 16 ++ clientSignature ++ clientSecret
  pairingHash crypto server (input ++ List.replicate (288 - input.length) 0)

/-- The third step: the client's answer goes out and the server's secret with its signature
comes back.
-/
def serverChallengeResp (crypto : PairingCrypto Certificate)
    (env : PairEnvironment Certificate) (server : GameStreamServer Certificate)
    (key response clientSecret : List UInt8)
    : Paired (List UInt8) := do
  let clientSignature ← random env.clientSignature
  require (clientSignature.length ≤ 256) .internalError
  execute env .encryptResponse
  let answer := challengeAnswer crypto server response clientSignature clientSecret
  let padded := answer ++ List.replicate (32 - answer.length) 0
  let text ← exchangePairing env server (.serverChallengeResp (crypto.encrypt key padded))
    (some ("pairingsecret", 8192))
  require (text.length % 2 == 0 && text.length / 2 == 272) .invalid
  .ok (hexDecode text)

/-- `verify_signature` of the server's secret, then `get_certificate_signature` and the
comparison of the challenge's hash.
-/
def verifyProof (crypto : PairingCrypto Certificate) (env : PairEnvironment Certificate)
    (server : GameStreamServer Certificate) (plaincert : CString)
    (challenge response secret : List UInt8)
    : Paired Unit := do
  let signer ← readPairingCertificate crypto env .verifySignature plaincert
  require (crypto.verify signer (secret.take 16) (secret.drop 16)) .securityError
  let certificate ← readPairingCertificate crypto env .certificateSignature plaincert
  let signature := crypto.certificateSignature certificate
  require (!signature.isEmpty && signature.length ≤ 256) .securityError
  let expected := pairingHash crypto server (challenge ++ signature ++ secret.take 16)
  require (response.take (hashLength server) == expected.take (hashLength server)) .incorrectPin

/-- The fourth step: the client's secret goes out with its signature. -/
def clientPairingSecret (crypto : PairingCrypto Certificate)
    (env : PairEnvironment Certificate) (server : GameStreamServer Certificate)
    (clientSecret : List UInt8)
    : Paired Unit := do
  execute env .signSecret
  let signature := crypto.sign clientSecret
  require (signature.length == 256) .internalError
  let _ ← exchangePairing env server (.clientPairingSecret (clientSecret ++ signature)) none
  .ok ()

/-- Everything before the candidate certificate is installed. -/
def authenticate (crypto : PairingCrypto Certificate) (env : PairEnvironment Certificate)
    (server : GameStreamServer Certificate) (pin : CString)
    : Paired Certificate := do
  require (pin.length == 4) .invalid
  require (!server.paired) .wrongState
  require (versionSupported server) .unsupportedVersion
  let salt ← random env.salt
  require env.initialBuffer .outOfMemory
  let plaincert ← getServerCert env server salt
  let challenge ← random env.challenge
  let key := pairingKey crypto server salt pin
  let response ← clientChallenge crypto env server key challenge
  let clientSecret ← random env.clientSecret
  let secret ← serverChallengeResp crypto env server key response clientSecret
  verifyProof crypto env server plaincert challenge response secret
  clientPairingSecret crypto env server clientSecret
  readPairingCertificate crypto env .readCandidate plaincert

/-- `save_pinned_certificate`; the file is replaced as a whole or not at all. -/
def savePinnedCertificate (server : GameStreamServer Certificate) (saved : Bool)
    : GameStreamServer Certificate :=
  if server.hasPath && server.serverCertificate.isSome && saved then
    { server with pinFile := server.serverCertificate }
  else server

/-- The loop after the commit, with the attempts that are left. -/
def refreshPaired (env : PairEnvironment Certificate)
    : Nat → GameStreamServer Certificate
      → GameStreamServer Certificate × Except GameStreamError Unit
  | 0, server => (server, .ok ())
  | left + 1, server =>
      let attempt := 3 - (left + 1)
      if env.cancelledBeforeRefresh attempt then (server, .error .cancelled)
      else
        match loadServerInfo server true true (env.refresh attempt) with
        | (refreshed, .ok ()) =>
            if refreshed.mac.isEmpty then refreshPaired env left refreshed
            else (refreshed, .ok ())
        | (refreshed, .error _) => refreshPaired env left refreshed

/-- The server and the result after a pairing, and what the server said. -/
structure PairOutcome (Certificate : Type) where
  server : GameStreamServer Certificate
  error : PairingError
  result : Except GameStreamError Unit

/-- `pair`. -/
def pair (crypto : PairingCrypto Certificate) (env : PairEnvironment Certificate)
    (server : GameStreamServer Certificate) (pin : CString)
    : PairOutcome Certificate :=
  match authenticate crypto env server pin with
  | .error failure => ⟨server, failure.error, .error failure.result⟩
  | .ok candidate =>
      let previous := server.serverCertificate
      let trusting := { server with serverCertificate := some candidate }
      match exchangePairing env trusting (.pairChallenge trusting.serverCertificate) none with
      | .error failure =>
          ⟨{ trusting with serverCertificate := previous }, failure.error, .error failure.result⟩
      | .ok _ =>
          let committed := { savePinnedCertificate trusting env.pinSaved with paired := true }
          let (refreshed, result) := refreshPaired env 3 committed
          ⟨refreshed, {}, result⟩

end VitaMoonlight
