import VitaMoonlight.GameStream.Pairing
import VitaMoonlight.Library.Fallible

/-! What a pairing that changed anything, or blamed the PIN, has checked.
Every step of the protocol is inverted once; the transcript of a run collects what the
steps together establish, and the outcome of `pair` is read off its three exits.
-/

namespace VitaMoonlight

open Library

variable {Certificate : Type}

@[simp] theorem require_eq_ok {condition : Bool} {result : GameStreamError} {done : Unit}
    : require condition result = .ok done ↔ condition = true := by
  cases condition <;> simp [require, refuse]

@[simp] theorem require_eq_error {condition : Bool} {result : GameStreamError}
    {failure : PairingFailure}
    : require condition result = .error failure ↔ condition = false ∧ failure = { result } := by
  cases condition <;> simp [require, refuse, eq_comm]

@[simp] theorem execute_eq_ok {env : PairEnvironment Certificate} {step : CryptoStep}
    {done : Unit}
    : execute env step = .ok done ↔ env.fault step = none := by
  unfold execute
  cases env.fault step <;> simp [refuse]

@[simp] theorem random_eq_ok {value : Option (List UInt8)} {bytes : List UInt8}
    : random value = .ok bytes ↔ value = some bytes := by
  cases value <;> simp [random, refuse]

/-- A certificate that was read is the one the text holds. -/
theorem readPairingCertificate_eq_ok {crypto : PairingCrypto Certificate}
    {env : PairEnvironment Certificate} {step : CryptoStep} {pem : CString}
    {certificate : Certificate}
    (read : readPairingCertificate crypto env step pem = .ok certificate)
    : crypto.readCertificate pem = some certificate := by
  simp only [readPairingCertificate, bind_eq_ok] at read
  obtain ⟨-, -, read⟩ := read
  cases parsed : crypto.readCertificate pem with
  | none => simp [parsed, refuse] at read
  | some other => simpa [parsed] using read

-----------------------------------------------------------------------------------------
-- Accepted answers
-----------------------------------------------------------------------------------------

/-- The server answered the request with a well-formed body of status 200 in which the
element `paired` is 1.
-/
structure Accepted (env : PairEnvironment Certificate) (server : GameStreamServer Certificate)
    (request : PairRequest Certificate) (body : XmlDocument) : Prop where
  received : (env.network request).outcome = .received body
  delivered : httpRequest server request.secure true (env.network request) = .ok body
  wellFormed : body.wellFormed = true
  status : body.status = 200
  paired : xmlFindValue body none (.ofLiteral "paired") 8 = .ok pairedText

/-- The accepted answer has this text in the element. -/
def Answered (env : PairEnvironment Certificate) (server : GameStreamServer Certificate)
    (request : PairRequest Certificate) (node : String) (text : CString)
    : Prop :=
  ∃ body,
    Accepted env server request body
    ∧ xmlFindValue body none (.ofLiteral node) 8192 = .ok text

/-- Only a transfer delivers a body. -/
theorem httpRequest_eq_ok {server : GameStreamServer Certificate} {secure cancellable : Bool}
    {exchange : Exchange} {body : XmlDocument}
    (delivered : httpRequest server secure cancellable exchange = .ok body)
    : exchange.outcome = .received body := by
  unfold httpRequest at delivered
  repeat
    split at delivered
    · contradiction
  split at delivered
  · rename_i outcome
    simpa [outcome] using delivered
  all_goals contradiction

/-- A lookup succeeds only with a parser. -/
theorem Exchange.find_eq_ok {exchange : Exchange} {body : XmlDocument} {node : String}
    {capacity : Nat} {text : CString} (found : exchange.find body node capacity = .ok text)
    : xmlFindValue body none (.ofLiteral node) capacity = .ok text := by
  unfold Exchange.find at found
  cases fault : exchange.fault (.ofLiteral node) with
  | none => rwa [fault] at found
  | some failed =>
      rw [fault, xmlFindValue] at found
      split at found
      · contradiction
      · cases failed <;> simp [XmlDocument.parse, bind, Except.bind] at found

/-- A request of the protocol succeeds only with an accepted answer. -/
theorem exchangePairing_eq_ok {env : PairEnvironment Certificate}
    {server : GameStreamServer Certificate} {request : PairRequest Certificate}
    {field : Option (String × Nat)} {text : CString}
    (exchanged : exchangePairing env server request field = .ok text)
    : ∃ body,
        Accepted env server request body
        ∧ ∀ node capacity,
            field = some (node, capacity)
            → xmlFindValue body none (.ofLiteral node) capacity = .ok text := by
  unfold exchangePairing at exchanged
  split at exchanged
  · contradiction
  · rename_i body delivered
    unfold readPairingResponse at exchanged
    split at exchanged
    · contradiction
    · rename_i accepted
      split at exchanged
      · contradiction
      · rename_i paired found
        split at exchanged
        · contradiction
        · rename_i is_paired
          obtain ⟨-, wellFormed, status⟩ := xmlStatusOk_eq_ok accepted
          rw [not_ne_iff.mp is_paired] at found
          refine ⟨body, ⟨httpRequest_eq_ok delivered, delivered, wellFormed, status,
            Exchange.find_eq_ok found⟩, ?_⟩
          rintro node capacity rfl
          simp only at exchanged
          split at exchanged
          · contradiction
          · rename_i text read
            obtain rfl := Except.ok.inj exchanged
            exact Exchange.find_eq_ok read

-----------------------------------------------------------------------------------------
-- The steps of the protocol
-----------------------------------------------------------------------------------------

theorem getServerCert_eq_ok {env : PairEnvironment Certificate}
    {server : GameStreamServer Certificate} {salt : List UInt8} {plaincert : CString}
    (stepped : getServerCert env server salt = .ok plaincert)
    : ∃ text,
        Answered env server (.getServerCert salt) "plaincert" text
        ∧ plaincert = .ofBytes (hexDecode text) := by
  simp only [getServerCert, bind_eq_ok] at stepped
  obtain ⟨text, exchanged, -, -, decoded⟩ := stepped
  obtain ⟨body, accepted, field⟩ := exchangePairing_eq_ok exchanged
  exact ⟨text, ⟨body, accepted, field _ _ rfl⟩, (Except.ok.inj decoded).symm⟩

theorem clientChallenge_eq_ok {crypto : PairingCrypto Certificate}
    {env : PairEnvironment Certificate} {server : GameStreamServer Certificate}
    {key challenge response : List UInt8}
    (stepped : clientChallenge crypto env server key challenge = .ok response)
    : ∃ text,
        Answered env server (.clientChallenge (crypto.encrypt key challenge))
          "challengeresponse" text
        ∧ response = crypto.decrypt key (hexDecode text) := by
  simp only [clientChallenge, bind_eq_ok] at stepped
  obtain ⟨-, -, text, exchanged, -, -, -, -, decrypted⟩ := stepped
  obtain ⟨body, accepted, field⟩ := exchangePairing_eq_ok exchanged
  exact ⟨text, ⟨body, accepted, field _ _ rfl⟩, (Except.ok.inj decrypted).symm⟩

/-- The text of the third request: the padded answer under the key. -/
def challengeAnswerText (crypto : PairingCrypto Certificate)
    (server : GameStreamServer Certificate)
    (key response clientSignature clientSecret : List UInt8)
    : List UInt8 :=
  let answer := challengeAnswer crypto server response clientSignature clientSecret
  crypto.encrypt key (answer ++ List.replicate (32 - answer.length) 0)

theorem serverChallengeResp_eq_ok {crypto : PairingCrypto Certificate}
    {env : PairEnvironment Certificate} {server : GameStreamServer Certificate}
    {key response clientSecret secret : List UInt8}
    (stepped : serverChallengeResp crypto env server key response clientSecret = .ok secret)
    : ∃ clientSignature text,
        env.clientSignature = some clientSignature
        ∧ Answered env server
            (.serverChallengeResp
              (challengeAnswerText crypto server key response clientSignature clientSecret))
            "pairingsecret" text
        ∧ secret = hexDecode text
        ∧ text.length = 544 := by
  simp only [serverChallengeResp, bind_eq_ok, random_eq_ok, require_eq_ok] at stepped
  obtain ⟨clientSignature, signed, -, -, -, -, text, exchanged, -, size, decoded⟩ := stepped
  obtain ⟨body, accepted, field⟩ := exchangePairing_eq_ok exchanged
  refine ⟨clientSignature, text, signed, ⟨body, accepted, field _ _ rfl⟩,
    (Except.ok.inj decoded).symm, ?_⟩
  simp only [Bool.and_eq_true, beq_iff_eq] at size
  omega

/-- The secret's signature verifies under the certificate the text holds. -/
def SignatureVerified (crypto : PairingCrypto Certificate) (plaincert : CString)
    (secret : List UInt8) (candidate : Certificate)
    : Prop :=
  crypto.readCertificate plaincert = some candidate
  ∧ crypto.verify candidate (secret.take 16) (secret.drop 16) = true

/-- The response starts with the hash of the challenge, the certificate's signature and the
server's secret.
-/
def ChallengeMatches (crypto : PairingCrypto Certificate)
    (server : GameStreamServer Certificate) (challenge response secret : List UInt8)
    (candidate : Certificate)
    : Prop :=
  let expected :=
    pairingHash crypto server
      (challenge ++ crypto.certificateSignature candidate ++ secret.take 16)
  response.take (hashLength server) = expected.take (hashLength server)

theorem verifyProof_eq_ok {crypto : PairingCrypto Certificate}
    {env : PairEnvironment Certificate} {server : GameStreamServer Certificate}
    {plaincert : CString} {challenge response secret : List UInt8} {done : Unit}
    (verified : verifyProof crypto env server plaincert challenge response secret = .ok done)
    : ∃ candidate,
        SignatureVerified crypto plaincert secret candidate
        ∧ ChallengeMatches crypto server challenge response secret candidate := by
  simp only [verifyProof, bind_eq_ok, require_eq_ok] at verified
  obtain ⟨signer, readSigner, -, proof, certificate, readAgain, -, -, same⟩ := verified
  have signer_is := readPairingCertificate_eq_ok readSigner
  obtain rfl := Option.some.inj
    (signer_is.symm.trans (readPairingCertificate_eq_ok readAgain))
  exact ⟨signer, ⟨signer_is, proof⟩, beq_iff_eq.mp same⟩

theorem clientPairingSecret_eq_ok {crypto : PairingCrypto Certificate}
    {env : PairEnvironment Certificate} {server : GameStreamServer Certificate}
    {clientSecret : List UInt8} {done : Unit}
    (stepped : clientPairingSecret crypto env server clientSecret = .ok done)
    : ∃ body,
        Accepted env server (.clientPairingSecret (clientSecret ++ crypto.sign clientSecret))
          body := by
  simp only [clientPairingSecret, bind_eq_ok] at stepped
  obtain ⟨-, -, -, -, _, exchanged, -⟩ := stepped
  obtain ⟨body, accepted, -⟩ := exchangePairing_eq_ok exchanged
  exact ⟨body, accepted⟩

-----------------------------------------------------------------------------------------
-- The result that blames the PIN
-----------------------------------------------------------------------------------------

/-- The failure tells the user that the PIN was wrong. -/
def BlamesPin (failure : PairingFailure) : Prop := failure.result = .incorrectPin

theorem avoids_refuse {α : Type} {result : GameStreamError} (other : result ≠ .incorrectPin)
    : Avoids BlamesPin (refuse result : Paired α) := by
  intro failure failed
  obtain rfl := Except.error.inj failed
  exact other

theorem avoids_require (condition : Bool) {result : GameStreamError}
    (other : result ≠ .incorrectPin)
    : Avoids BlamesPin (require condition result) := by
  unfold require
  split
  · exact .ok _ _
  · exact avoids_refuse other

theorem avoids_random (value : Option (List UInt8)) : Avoids BlamesPin (random value) := by
  cases value with
  | none => exact avoids_refuse (by decide)
  | some bytes => exact .ok _ _

theorem avoids_execute (env : PairEnvironment Certificate) (step : CryptoStep)
    : Avoids BlamesPin (execute env step) := by
  unfold execute
  cases env.fault step with
  | none => exact .ok _ _
  | some fault => cases fault <;> exact avoids_refuse (by decide)

theorem avoids_readPairingCertificate (crypto : PairingCrypto Certificate)
    (env : PairEnvironment Certificate) (step : CryptoStep) (pem : CString)
    : Avoids BlamesPin (readPairingCertificate crypto env step pem) := by
  refine (avoids_execute env step).bind fun _ => ?_
  cases crypto.readCertificate pem with
  | none => exact avoids_refuse (by decide)
  | some certificate => exact .ok _ _

theorem httpRequest_ne_incorrectPin {server : GameStreamServer Certificate}
    {secure cancellable : Bool} {exchange : Exchange} {result : GameStreamError}
    (failed : httpRequest server secure cancellable exchange = .error result)
    : result ≠ .incorrectPin := by
  unfold httpRequest at failed
  rintro rfl
  repeat
    split at failed
    · simp at failed
  case h_4 => split at failed <;> simp at failed
  all_goals simp at failed

theorem XmlDocument.parse_ne_incorrectPin {document : XmlDocument} {fault : Option ParserFault}
    {result : GameStreamError} (failed : document.parse fault = .error result)
    : result ≠ .incorrectPin := by
  rintro rfl
  unfold XmlDocument.parse at failed
  split at failed
  · simp at failed
  · simp at failed
  · split at failed <;> simp at failed

theorem Exchange.find_ne_incorrectPin {exchange : Exchange} {body : XmlDocument}
    {node : String} {capacity : Nat} {result : GameStreamError}
    (failed : exchange.find body node capacity = .error result)
    : result ≠ .incorrectPin := by
  unfold Exchange.find xmlFindValue at failed
  split at failed
  · obtain rfl := Except.error.inj failed
    decide
  · rcases bind_eq_error.mp failed with unparsed | ⟨events, -, missing⟩
    · exact XmlDocument.parse_ne_incorrectPin unparsed
    · simp only at missing
      split at missing
      · contradiction
      · obtain rfl := Except.error.inj missing
        decide

theorem xmlStatusOk_ne_incorrectPin {document : XmlDocument} {fault : Option ParserFault}
    {error : PairingError} {result : GameStreamError}
    (failed : xmlStatusOk document fault = (error, .error result))
    : result ≠ .incorrectPin := by
  unfold xmlStatusOk at failed
  split at failed
  · rename_i reason unparsed
    obtain ⟨-, same⟩ := Prod.mk.inj failed
    obtain rfl := Except.error.inj same
    exact XmlDocument.parse_ne_incorrectPin unparsed
  · simp only at failed
    split at failed
    · rintro rfl
      obtain ⟨-, same⟩ := Prod.mk.inj failed
      split at same <;> simp at same
    · simp at failed

theorem avoids_exchangePairing (env : PairEnvironment Certificate)
    (server : GameStreamServer Certificate) (request : PairRequest Certificate)
    (field : Option (String × Nat))
    : Avoids BlamesPin (exchangePairing env server request field) := by
  unfold exchangePairing
  split
  · rename_i result failed
    exact avoids_refuse (httpRequest_ne_incorrectPin failed)
  · unfold readPairingResponse
    split
    · rename_i error result failed
      intro failure same
      obtain rfl := Except.error.inj same
      exact xmlStatusOk_ne_incorrectPin failed
    · split
      · rename_i result failed
        exact avoids_refuse (Exchange.find_ne_incorrectPin failed)
      · split
        · exact avoids_refuse (by decide)
        · split
          · exact .ok _ _
          · split
            · rename_i result failed
              exact avoids_refuse (Exchange.find_ne_incorrectPin failed)
            · exact .ok _ _

-----------------------------------------------------------------------------------------
-- The transcript of a pairing
-----------------------------------------------------------------------------------------

/-- What one run of the protocol drew and received. -/
structure PairTranscript (Certificate : Type) where
  salt : List UInt8
  challenge : List UInt8
  clientSecret : List UInt8
  clientSignature : List UInt8
  certificateText : CString
  responseText : CString
  secretText : CString
  candidate : Certificate

namespace PairTranscript

/-- The certificate text received in the first step. -/
def plaincert (transcript : PairTranscript Certificate) : CString :=
  .ofBytes (hexDecode transcript.certificateText)

/-- The server's secret with its signature. -/
def secret (transcript : PairTranscript Certificate) : List UInt8 :=
  hexDecode transcript.secretText

/-- The key derived from the salt and the PIN. -/
def key (transcript : PairTranscript Certificate) (crypto : PairingCrypto Certificate)
    (server : GameStreamServer Certificate) (pin : CString)
    : List UInt8 :=
  pairingKey crypto server transcript.salt pin

/-- The challenge response decrypted under that key. -/
def response (transcript : PairTranscript Certificate) (crypto : PairingCrypto Certificate)
    (server : GameStreamServer Certificate) (pin : CString)
    : List UInt8 :=
  crypto.decrypt (transcript.key crypto server pin) (hexDecode transcript.responseText)

/-- The first three answers were accepted and the signature of the server's secret verified
under the certificate of the first one.
-/
structure Proved (transcript : PairTranscript Certificate) (crypto : PairingCrypto Certificate)
    (env : PairEnvironment Certificate) (server : GameStreamServer Certificate) (pin : CString)
    : Prop where
  salted : env.salt = some transcript.salt
  challenged : env.challenge = some transcript.challenge
  drawn : env.clientSecret = some transcript.clientSecret
  signed : env.clientSignature = some transcript.clientSignature
  firstAnswer
    : Answered env server (.getServerCert transcript.salt) "plaincert"
        transcript.certificateText
  secondAnswer
    : Answered env server
        (.clientChallenge
          (crypto.encrypt (transcript.key crypto server pin) transcript.challenge))
        "challengeresponse" transcript.responseText
  thirdAnswer
    : Answered env server
        (.serverChallengeResp
          (challengeAnswerText crypto server (transcript.key crypto server pin)
            (transcript.response crypto server pin) transcript.clientSignature
            transcript.clientSecret))
        "pairingsecret" transcript.secretText
  verified
    : SignatureVerified crypto transcript.plaincert transcript.secret transcript.candidate

/-- Besides, the challenge matches and the fourth answer was accepted. -/
structure Authenticated (transcript : PairTranscript Certificate)
    (crypto : PairingCrypto Certificate) (env : PairEnvironment Certificate)
    (server : GameStreamServer Certificate) (pin : CString) : Prop
    extends transcript.Proved crypto env server pin where
  challengeMatches
    : ChallengeMatches crypto server transcript.challenge
        (transcript.response crypto server pin) transcript.secret transcript.candidate
  fourthAnswer
    : ∃ body,
        Accepted env server
          (.clientPairingSecret
            (transcript.clientSecret ++ crypto.sign transcript.clientSecret))
          body

/-- Besides, the final secure answer was accepted from a peer with that certificate. -/
structure Trusted (transcript : PairTranscript Certificate)
    (crypto : PairingCrypto Certificate) (env : PairEnvironment Certificate)
    (server : GameStreamServer Certificate) (pin : CString) : Prop
    extends transcript.Authenticated crypto env server pin where
  secureAnswer
    : ∃ body,
        Accepted env { server with serverCertificate := some transcript.candidate }
          (.pairChallenge (some transcript.candidate)) body

end PairTranscript

-----------------------------------------------------------------------------------------
-- The steps in a row
-----------------------------------------------------------------------------------------

/-- A candidate certificate comes out of a run that authenticated it. -/
theorem authenticate_eq_ok {crypto : PairingCrypto Certificate}
    {env : PairEnvironment Certificate} {server : GameStreamServer Certificate} {pin : CString}
    {candidate : Certificate}
    (authenticated : authenticate crypto env server pin = .ok candidate)
    : ∃ transcript : PairTranscript Certificate,
        transcript.Authenticated crypto env server pin
        ∧ transcript.candidate = candidate := by
  simp only [authenticate, bind_eq_ok, random_eq_ok] at authenticated
  obtain ⟨-, -, -, -, -, -, salt, salted, -, -, plaincert, first, challenge, challenged,
    response, second, clientSecret, drawn, secret, third, _, proof, _, fourth, read⟩ :=
    authenticated
  obtain ⟨certificateText, firstAnswer, rfl⟩ := getServerCert_eq_ok first
  obtain ⟨responseText, secondAnswer, rfl⟩ := clientChallenge_eq_ok second
  obtain ⟨clientSignature, secretText, signed, thirdAnswer, rfl, -⟩ :=
    serverChallengeResp_eq_ok third
  obtain ⟨signer, verified, challengeMatches⟩ := verifyProof_eq_ok proof
  obtain ⟨body, fourthAnswer⟩ := clientPairingSecret_eq_ok fourth
  obtain rfl := Option.some.inj (verified.1.symm.trans (readPairingCertificate_eq_ok read))
  exact ⟨⟨salt, challenge, clientSecret, clientSignature, certificateText, responseText,
      secretText, signer⟩,
    ⟨⟨salted, challenged, drawn, signed, firstAnswer, secondAnswer, thirdAnswer, verified⟩,
      challengeMatches, body, fourthAnswer⟩, rfl⟩

theorem avoids_getServerCert (env : PairEnvironment Certificate)
    (server : GameStreamServer Certificate) (salt : List UInt8)
    : Avoids BlamesPin (getServerCert env server salt) := by
  refine (avoids_exchangePairing _ _ _ _).bind fun _ => ?_
  exact (avoids_require _ (by decide)).bind fun _ => .ok _ _

theorem avoids_clientChallenge (crypto : PairingCrypto Certificate)
    (env : PairEnvironment Certificate) (server : GameStreamServer Certificate)
    (key challenge : List UInt8)
    : Avoids BlamesPin (clientChallenge crypto env server key challenge) := by
  refine (avoids_execute _ _).bind fun _ => (avoids_exchangePairing _ _ _ _).bind fun _ => ?_
  refine (avoids_require _ (by decide)).bind fun _ => ?_
  exact (avoids_execute _ _).bind fun _ => .ok _ _

theorem avoids_serverChallengeResp (crypto : PairingCrypto Certificate)
    (env : PairEnvironment Certificate) (server : GameStreamServer Certificate)
    (key response clientSecret : List UInt8)
    : Avoids BlamesPin (serverChallengeResp crypto env server key response clientSecret) := by
  refine (avoids_random _).bind fun _ => (avoids_require _ (by decide)).bind fun _ => ?_
  refine (avoids_execute _ _).bind fun _ => (avoids_exchangePairing _ _ _ _).bind fun _ => ?_
  exact (avoids_require _ (by decide)).bind fun _ => .ok _ _

theorem avoids_clientPairingSecret (crypto : PairingCrypto Certificate)
    (env : PairEnvironment Certificate) (server : GameStreamServer Certificate)
    (clientSecret : List UInt8)
    : Avoids BlamesPin (clientPairingSecret crypto env server clientSecret) := by
  refine (avoids_execute _ _).bind fun _ => (avoids_require _ (by decide)).bind fun _ => ?_
  exact (avoids_exchangePairing _ _ _ _).bind fun _ => .ok _ _

/-- The PIN is blamed only after the signature verified. -/
theorem verifyProof_eq_error {crypto : PairingCrypto Certificate}
    {env : PairEnvironment Certificate} {server : GameStreamServer Certificate}
    {plaincert : CString} {challenge response secret : List UInt8} {failure : PairingFailure}
    (failed : verifyProof crypto env server plaincert challenge response secret = .error failure)
    (blames : BlamesPin failure)
    : ∃ candidate, SignatureVerified crypto plaincert secret candidate := by
  obtain ⟨signer, read, failed⟩ :=
    (avoids_readPairingCertificate crypto env .verifySignature plaincert).of_bind_eq_error
      failed blames
  obtain ⟨_, proof, -⟩ := (avoids_require _ (by decide)).of_bind_eq_error failed blames
  exact ⟨signer, readPairingCertificate_eq_ok read, require_eq_ok.mp proof⟩

/-- The steps blame the PIN only after the server proved it holds the certificate's key.
Witness: every step before the comparison avoids that result, so it has succeeded, and no
step after it has the result.
-/
theorem authenticate_eq_error {crypto : PairingCrypto Certificate}
    {env : PairEnvironment Certificate} {server : GameStreamServer Certificate} {pin : CString}
    {failure : PairingFailure} (failed : authenticate crypto env server pin = .error failure)
    (blames : BlamesPin failure)
    : ∃ transcript : PairTranscript Certificate, transcript.Proved crypto env server pin := by
  unfold authenticate at failed
  obtain ⟨_, -, failed⟩ := (avoids_require _ (by decide)).of_bind_eq_error failed blames
  obtain ⟨_, -, failed⟩ := (avoids_require _ (by decide)).of_bind_eq_error failed blames
  obtain ⟨_, -, failed⟩ := (avoids_require _ (by decide)).of_bind_eq_error failed blames
  obtain ⟨salt, salted, failed⟩ := (avoids_random _).of_bind_eq_error failed blames
  obtain ⟨_, -, failed⟩ := (avoids_require _ (by decide)).of_bind_eq_error failed blames
  obtain ⟨plaincert, first, failed⟩ :=
    (avoids_getServerCert env server salt).of_bind_eq_error failed blames
  obtain ⟨challenge, challenged, failed⟩ := (avoids_random _).of_bind_eq_error failed blames
  obtain ⟨response, second, failed⟩ :=
    (avoids_clientChallenge _ _ _ _ _).of_bind_eq_error failed blames
  obtain ⟨clientSecret, drawn, failed⟩ := (avoids_random _).of_bind_eq_error failed blames
  obtain ⟨secret, third, failed⟩ :=
    (avoids_serverChallengeResp _ _ _ _ _ _).of_bind_eq_error failed blames
  rcases bind_eq_error.mp failed with mismatch | ⟨_, -, later⟩
  · obtain ⟨certificateText, firstAnswer, rfl⟩ := getServerCert_eq_ok first
    obtain ⟨responseText, secondAnswer, rfl⟩ := clientChallenge_eq_ok second
    obtain ⟨clientSignature, secretText, signed, thirdAnswer, rfl, -⟩ :=
      serverChallengeResp_eq_ok third
    obtain ⟨signer, verified⟩ := verifyProof_eq_error mismatch blames
    exact ⟨⟨salt, challenge, clientSecret, clientSignature, certificateText, responseText,
        secretText, signer⟩,
      random_eq_ok.mp salted, random_eq_ok.mp challenged, random_eq_ok.mp drawn, signed,
      firstAnswer, secondAnswer, thirdAnswer, verified⟩
  · have avoids
        : Avoids BlamesPin
            (clientPairingSecret crypto env server clientSecret
              >>= fun _ => readPairingCertificate crypto env .readCandidate plaincert) :=
      (avoids_clientPairingSecret _ _ _ _).bind
        fun _ => avoids_readPairingCertificate _ _ _ _
    exact absurd blames (avoids failure later)

-----------------------------------------------------------------------------------------
-- The three exits
-----------------------------------------------------------------------------------------

/-- The server after the commit. -/
def committedServer (server : GameStreamServer Certificate) (candidate : Certificate)
    (saved : Bool)
    : GameStreamServer Certificate :=
  { savePinnedCertificate { server with serverCertificate := some candidate } saved with
    paired := true }

/-- A pairing either fails with the server as it was, or commits an authenticated
certificate and then refreshes.
-/
theorem pair_cases (crypto : PairingCrypto Certificate) (env : PairEnvironment Certificate)
    (server : GameStreamServer Certificate) (pin : CString)
    : (∃ failure,
        pair crypto env server pin = ⟨server, failure.error, .error failure.result⟩
        ∧ (BlamesPin failure
          → ∃ transcript : PairTranscript Certificate,
              transcript.Proved crypto env server pin))
      ∨ ∃ transcript : PairTranscript Certificate,
          transcript.Trusted crypto env server pin
          ∧ pair crypto env server pin
            = ⟨(refreshPaired env 3
                  (committedServer server transcript.candidate env.pinSaved)).1, {},
                (refreshPaired env 3
                  (committedServer server transcript.candidate env.pinSaved)).2⟩ := by
  unfold pair
  split
  · rename_i failure failed
    exact .inl ⟨failure, rfl, authenticate_eq_error failed⟩
  · rename_i candidate authenticated
    obtain ⟨transcript, proof, rfl⟩ := authenticate_eq_ok authenticated
    dsimp only
    split
    · rename_i failure failed
      exact .inl ⟨failure, rfl, fun blames =>
        absurd blames (avoids_exchangePairing _ _ _ _ failure failed)⟩
    · rename_i text exchanged
      obtain ⟨body, secureAnswer, -⟩ := exchangePairing_eq_ok exchanged
      exact .inr ⟨transcript, ⟨proof, body, secureAnswer⟩, rfl⟩

/-- A pairing changes the certificate, the pin or the paired flag only in a run that
authenticated the certificate in every step, and blames the PIN only after the server's
signature verified.
-/
theorem pair_trusts_only_authenticated (crypto : PairingCrypto Certificate)
    (env : PairEnvironment Certificate) (server : GameStreamServer Certificate) (pin : CString)
    : ((pair crypto env server pin).server.serverCertificate ≠ server.serverCertificate
          ∨ (pair crypto env server pin).server.pinFile ≠ server.pinFile
          ∨ (pair crypto env server pin).server.paired = true ∧ server.paired = false
        → ∃ transcript : PairTranscript Certificate,
            transcript.Trusted crypto env server pin)
      ∧ ((pair crypto env server pin).result = .error .incorrectPin
        → ∃ transcript : PairTranscript Certificate,
            transcript.Proved crypto env server pin) := by
  rcases pair_cases crypto env server pin with ⟨failure, same, blames⟩ | ⟨transcript, trusted, same⟩
  · rw [same]
    constructor
    · rintro (changed | changed | ⟨is_paired, was_paired⟩)
      · exact absurd rfl changed
      · exact absurd rfl changed
      · exact absurd (is_paired.symm.trans was_paired) (by decide)
    · exact fun result => blames (Except.error.inj result)
  · exact ⟨fun _ => ⟨transcript, trusted⟩, fun _ => ⟨transcript, trusted.toProved⟩⟩

end VitaMoonlight
