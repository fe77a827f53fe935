import VitaMoonlight.GameStream.Xml
import VitaMoonlight.Library.CrashLogic
import VitaMoonlight.Library.Machine

/-! The files that the identities are kept in (`legacy_gamestream.c`): the client's unique id, its
certificate and its key, and the certificates of the paired servers; and what the removal of a PC
does to them (`device.c`). Each effect on a file is one step of a routine, behind which the power may
go. Data that was accepted, flushed and closed is taken to be there for good.
-/

namespace VitaMoonlight

open Library

-----------------------------------------------------------------------------------------
-- Files
-----------------------------------------------------------------------------------------

/-- The directory of the client (`legacy_device_store_get_client_directory`), which lies beside those
of the PCs.
-/
def clientDirectory : String := "client"

/-- The files by what they are for: the client's, and those of a PC's certificate by the directory of
the PC (`legacy_device_store_get_server_certificate_path`).
-/
inductive CredentialFile where
  | uniqueId
  | certificate
  | key
  | p12
  | pin (directory : String)
  | temporary (directory : String)
deriving DecidableEq

/-- The directory that a file is in. -/
def CredentialFile.directory : CredentialFile → String
  | .uniqueId | .certificate | .key | .p12 => clientDirectory
  | .pin directory | .temporary directory => directory

/-- What the calls of `remove_device_index` answer: whether the directory opens, and which of the
files in it go. Where the power goes on the way, the rest of them stays.
-/
structure RemovalAnswers where
  opens : Bool
  removes : CredentialFile → Bool

def RemovalAnswers.goes (answers : RemovalAnswers) (file : CredentialFile) : Bool :=
  answers.opens && answers.removes file

/-- What each file holds; `none` is a file that is not there. -/
abbrev CredentialDisk : Type := CredentialFile → Option (List UInt8)

namespace CredentialDisk

variable (disk : CredentialDisk)

def write (file : CredentialFile) (bytes : List UInt8) : CredentialDisk :=
  Function.update disk file (some bytes)

def remove (file : CredentialFile) : CredentialDisk := Function.update disk file none

def rename (file target : CredentialFile) : CredentialDisk :=
  Function.update (Function.update disk target (disk file)) file none

/-- `remove_device_index`: whatever is in the directory of the PC goes, the files of the client too if
that is theirs. A call that fails is passed over.
-/
def removeDevice (directory : String) (answers : RemovalAnswers) : CredentialDisk := fun file =>
  if file.directory = directory ∧ answers.goes file then none else disk file

end CredentialDisk

/-- What storing data in an open file answers: how much of it is on the disk at some point on the way
and at the end, whether the writes accept it and whether the flush and the close succeed. What was
accepted, flushed and closed is there as a whole.
-/
structure StoreAnswer where
  early : Nat
  stored : Nat
  accepted : Bool
  closed : Bool

def StoreAnswer.complete (answer : StoreAnswer) : Bool := answer.accepted && answer.closed

/-- `fopen` of a file to write it. -/
def openTruncated (file : CredentialFile) (opens : Bool) : Routine CredentialDisk Bool := do
  if opens then
    Routine.effect (·.write file [])
  return opens

/-- Writing to a file that has been opened. -/
def writeOpened (file : CredentialFile) (data : List UInt8) (answer : StoreAnswer)
    : Routine CredentialDisk Unit :=
  Routine.effect (·.write file (data.take answer.early))

/-- Closing a file that data was written to. -/
def closeWritten (file : CredentialFile) (data : List UInt8) (answer : StoreAnswer)
    : Routine CredentialDisk Unit :=
  Routine.effect (·.write file (if answer.complete then data else data.take answer.stored))

/-- Writing to a file that has been opened, and closing it. -/
def storeBytes (file : CredentialFile) (data : List UInt8) (answer : StoreAnswer)
    : Routine CredentialDisk Unit := do
  writeOpened file data answer
  closeWritten file data answer

/-- `fopen` of a file to read it, with what it holds. -/
def openRead (file : CredentialFile) (opens : Bool)
    : Routine CredentialDisk (Option (List UInt8)) :=
  Routine.look fun disk => if opens then disk file else none

-----------------------------------------------------------------------------------------
-- The unique id
-----------------------------------------------------------------------------------------

/-- An error of this file, with the text that `set_error` keeps. -/
structure CredentialError where
  result : GameStreamError
  message : String

def credentialFailed (message : String) : CredentialError := ⟨.failed, message⟩

/-- `UNIQUEID_CHARS`. -/
def uniqueIdChars : Nat := 16

/-- One digit of `%02x`. -/
def hexCharacter (value : UInt8) : UInt8 := if value < 10 then 48 + value else 87 + value

/-- `bytes_to_hex`. -/
def bytesToHex (bytes : List UInt8) : List UInt8 :=
  bytes.flatMap fun byte => [hexCharacter (byte / 16), hexCharacter (byte % 16)]

/-- The `UNIQUEID_BYTES` that the random generator yields. -/
structure RandomBytes where
  bytes : List UInt8
  length : bytes.length = 8

/-- What the calls of `load_unique_id` answer. -/
structure UniqueIdAnswers where
  opens : Bool
  random : Option RandomBytes
  creates : Bool
  stored : StoreAnswer

/-- `load_unique_id`: the id, and whether it was read from the file. -/
def loadUniqueId (answers : UniqueIdAnswers)
    : Routine CredentialDisk (Except CredentialError (List UInt8 × Bool)) := do
  let file ← openRead .uniqueId answers.opens
  let kept := (file.getD []).take uniqueIdChars
  if kept.length = uniqueIdChars then return .ok (kept, true)
  match answers.random with
  | none => return .error (credentialFailed "Unable to generate a unique client id")
  | some random =>
      let id := bytesToHex random.bytes
      let opened ← openTruncated .uniqueId answers.creates
      if !opened then return .error (credentialFailed "Unable to create uniqueid.dat")
      storeBytes .uniqueId id answers.stored
      return if answers.stored.accepted then .ok (id, false) else .error (credentialFailed "")

-----------------------------------------------------------------------------------------
-- The client certificate
-----------------------------------------------------------------------------------------

/-- The encodings of OpenSSL. -/
structure CredentialCodec (Certificate Key : Type) where
  writeCertificate : Certificate → List UInt8
  readCertificate : List UInt8 → Option Certificate
  writeKey : Key → List UInt8
  readKey : List UInt8 → Option Key
  writeP12 : Key → Certificate → List UInt8

/-- What the calls of `save_certificate_files` answer. A step before the files that fails has its own
text.
-/
structure SaveAnswers (Certificate Key : Type) where
  generated : Except String (Key × Certificate)
  opensCertificate : Bool
  opensKey : Bool
  opensP12 : Bool
  certificate : StoreAnswer
  key : StoreAnswer
  p12 : StoreAnswer

/-- What the calls of `load_certificate` answer. -/
structure CertificateAnswers (Certificate Key : Type) where
  allocated : Bool
  opens : Bool
  save : SaveAnswers Certificate Key
  opensSaved : Bool
  bufferAllocated : Bool
  opensRaw : Bool
  opensKey : Bool

section Certificates

variable {Certificate Key : Type} (codec : CredentialCodec Certificate Key)

/-- `save_certificate_files`. -/
def saveCertificateFiles (answers : SaveAnswers Certificate Key)
    : Routine CredentialDisk (Except CredentialError Unit) := do
  match answers.generated with
  | .error message => return .error (credentialFailed message)
  | .ok (key, certificate) =>
      let first ← openTruncated .certificate answers.opensCertificate
      let second ← openTruncated .key answers.opensKey
      let third ← openTruncated .p12 answers.opensP12
      if !(first && second && third) then
        return .error (credentialFailed "Unable to open client credential files")
      let pem := codec.writeCertificate certificate
      let keyPem := codec.writeKey key
      let bundle := codec.writeP12 key certificate
      writeOpened .certificate pem answers.certificate
      if !answers.certificate.accepted then
        closeWritten .certificate pem answers.certificate
        return .error (credentialFailed "Unable to write client credential files")
      writeOpened .key keyPem answers.key
      if !answers.key.accepted then
        closeWritten .certificate pem answers.certificate
        closeWritten .key keyPem answers.key
        return .error (credentialFailed "Unable to write client credential files")
      writeOpened .p12 bundle answers.p12
      closeWritten .certificate pem answers.certificate
      closeWritten .key keyPem answers.key
      closeWritten .p12 bundle answers.p12
      if !answers.p12.accepted then
        return .error (credentialFailed "Unable to write client credential files")
      return .ok ()

/-- What `load_certificate` keeps. -/
structure ClientIdentity (Certificate Key : Type) where
  certificate : Certificate
  certificateHex : List UInt8
  key : Key

/-- The end of `load_certificate`, which reads the key. -/
def readPrivateKey (opens : Bool) (certificate : Certificate) (raw : List UInt8)
    : Routine CredentialDisk (Except CredentialError (ClientIdentity Certificate Key)) := do
  match ← openRead .key opens with
  | none => return .error (credentialFailed "Unable to open key.pem")
  | some file =>
      match codec.readKey file with
      | none => return .error (credentialFailed "Unable to load key.pem")
      | some key => return .ok { certificate, certificateHex := bytesToHex raw, key }

/-- `load_certificate` behind the opening of the certificate. -/
def readIdentity (answers : CertificateAnswers Certificate Key) (file : List UInt8)
    : Routine CredentialDisk (Except CredentialError (ClientIdentity Certificate Key)) := do
  let length := min file.length 8191
  match codec.readCertificate file with
  | none => return .error (credentialFailed "Unable to load client certificate")
  | some certificate =>
      if length = 0 ∨ length * 2 ≥ 8192 then
        return .error (credentialFailed "Unable to load client certificate")
      if !answers.bufferAllocated then
        return .error ⟨.outOfMemory, "Unable to allocate certificate buffer"⟩
      let raw ← openRead .certificate answers.opensRaw
      match raw with
      | none => return .error (credentialFailed "Unable to reopen client.pem")
      | some raw =>
          let raw := raw.take 4096
          if raw.length = 0 ∨ raw.length * 2 ≥ 8192 then
            return .error (credentialFailed "Client certificate is too large")
          readPrivateKey codec answers.opensKey certificate raw

/-- `load_certificate`. -/
def loadCertificate (answers : CertificateAnswers Certificate Key)
    : Routine CredentialDisk (Except CredentialError (ClientIdentity Certificate Key)) := do
  if !answers.allocated then
    return .error ⟨.outOfMemory, "Unable to allocate certificate paths"⟩
  let file ← openRead .certificate answers.opens
  match file with
  | some file => readIdentity codec answers file
  | none =>
      match ← saveCertificateFiles codec answers.save with
      | .error error => return .error ⟨.failed, error.message⟩
      | .ok () =>
          match ← openRead .certificate answers.opensSaved with
          | none => return .error (credentialFailed "Unable to open client.pem")
          | some file => readIdentity codec answers file

-----------------------------------------------------------------------------------------
-- The certificates of the servers
-----------------------------------------------------------------------------------------

/-- `load_pinned_certificate`, with whether an opening that fails finds no file. A server may have no
path, by the directory of its PC.
-/
def loadPinnedCertificate (path : Option String) (opens : Bool)
    : Routine CredentialDisk (Except CredentialError (Option Certificate)) := do
  match path with
  | none => return .ok none
  | some directory =>
      if !opens then return .error ⟨.ioError, "Unable to read saved server certificate"⟩
      match ← openRead (.pin directory) true with
      | none => return .ok none
      | some file =>
          match codec.readCertificate file with
          | none =>
              return .error
                ⟨.securityError, "Invalid saved server certificate; remove the PC and pair again"⟩
          | some certificate => return .ok (some certificate)

/-- What the calls of `save_pinned_certificate` answer. -/
structure PinAnswers where
  opens : Bool
  stored : StoreAnswer
  renames : Bool
  removes : Bool

/-- `save_pinned_certificate`, and whether it succeeds. -/
def savePinned (path : Option String) (certificate : Certificate) (answers : PinAnswers)
    : Routine CredentialDisk Bool := do
  match path with
  | none => return false
  | some directory =>
      let opened ← openTruncated (.temporary directory) answers.opens
      if !opened then return false
      storeBytes (.temporary directory) (codec.writeCertificate certificate) answers.stored
      if answers.stored.complete && answers.renames then
        Routine.effect (·.rename (.temporary directory) (.pin directory))
        return true
      if answers.removes then
        Routine.effect (·.remove (.temporary directory))
      return false

-----------------------------------------------------------------------------------------
-- The process
-----------------------------------------------------------------------------------------

/-- What a run shows: what `legacy_gamestream_init` loads, and what becomes of a server's
certificate. An id is durable when it was read from the file or stored there as a whole. A PC that is
forgotten may keep its certificate, where its file did not go.
-/
inductive CredentialLabel (Certificate Key : Type) where
  | uniqueId (id : List UInt8) (durable : Bool)
  | identity (identity : ClientIdentity Certificate Key)
  | pinned (path : Option String) (found : Option Certificate)
  | unpinned (path : Option String) (error : CredentialError)
  | saved (path : Option String) (certificate : Certificate) (succeeded : Bool)
  | savingCut (path : Option String) (certificate : Certificate)
  | forgotten (directory : String) (gone : Bool)

/-- What the calls of `init_worker` answer, up to the loading of the server's certificate. -/
structure InitAnswers (Certificate Key : Type) where
  directories : Bool
  uniqueId : UniqueIdAnswers
  certificate : CertificateAnswers Certificate Key
  curl : Bool
  opensPin : Bool

/-- `init_worker` as far as it loads what the files hold. -/
def initWorker (path : Option String) (answers : InitAnswers Certificate Key)
    : Routine CredentialDisk (List (CredentialLabel Certificate Key)) := do
  if !answers.directories then return []
  match ← loadUniqueId answers.uniqueId with
  | .error _ => return []
  | .ok (id, kept) =>
      let first := .uniqueId id (kept || answers.uniqueId.stored.complete)
      match ← loadCertificate codec answers.certificate with
      | .error _ => return [first]
      | .ok identity =>
          if !answers.curl then return [first, .identity identity]
          match ← loadPinnedCertificate codec path answers.opensPin with
          | .error error => return [first, .identity identity, .unpinned path error]
          | .ok found => return [first, .identity identity, .pinned path found]

/-- A call, or a call behind some of whose effects the process dies. -/
inductive CredentialChoice (Certificate Key : Type) where
  | init (path : Option String) (answers : InitAnswers Certificate Key)
  | initCut (path : Option String) (answers : InitAnswers Certificate Key) (count : Nat)
  | save (path : Option String) (certificate : Certificate) (answers : PinAnswers)
  | saveCut (path : Option String) (certificate : Certificate) (answers : PinAnswers) (count : Nat)
  | forget (directory : String) (answers : RemovalAnswers)

def credentialStep (disk : CredentialDisk)
    : CredentialChoice Certificate Key
      → Option (CredentialDisk × List (CredentialLabel Certificate Key))
  | .init path answers =>
      let course := initWorker codec path answers disk
      some (course.final, course.answer)
  | .initCut path answers count => some ((initWorker codec path answers).cutOff count disk, [])
  | .save path certificate answers =>
      let course := savePinned codec path certificate answers disk
      some (course.final, [.saved path certificate course.answer])
  | .saveCut path certificate answers count =>
      some ((savePinned codec path certificate answers).cutOff count disk,
        [.savingCut path certificate])
  | .forget directory answers =>
      some (disk.removeDevice directory answers,
        [.forgotten directory (answers.goes (.pin directory))])

/-- The process over its restarts, from a disk without certificates of servers. -/
def credentialMachine
    : Machine CredentialDisk (CredentialChoice Certificate Key)
        (CredentialLabel Certificate Key) where
  initial disk := ∀ directory, disk (.pin directory) = none
  step := credentialStep codec

end Certificates

end VitaMoonlight
