import VitaMoonlight.GameStream.CredentialFiles
import VitaMoonlight.Library.KeptCalls

/-! What the credential files keep over restarts and power cuts. A server's certificate is replaced
as a whole or not at all, the client keeps the identity that it once had, and a client certificate
that was stored without its key is never repaired.
-/

namespace VitaMoonlight

open Library

-----------------------------------------------------------------------------------------
-- What the disk holds
-----------------------------------------------------------------------------------------

/-- A unique id is on the disk as a whole. -/
def CredentialDisk.HoldsId (disk : CredentialDisk) (id : List UInt8) : Prop :=
  ∃ file, disk .uniqueId = some file ∧ file.take uniqueIdChars = id ∧ id.length = uniqueIdChars

/-- The two disks are the same but for some files. -/
def SameBut (files : CredentialFile → Prop) (before after : CredentialDisk) : Prop :=
  ∀ file, ¬ files file → after file = before file

/-- The files of the client. -/
def CredentialFile.IsClient : CredentialFile → Prop
  | .certificate | .key | .p12 => True
  | _ => False

/-- The files of the client and its unique id. -/
def CredentialFile.IsOwn : CredentialFile → Prop
  | .pin _ | .temporary _ => False
  | _ => True

theorem CredentialFile.IsClient.isOwn {file : CredentialFile} (client : file.IsClient)
    : file.IsOwn := by
  cases file <;> trivial

section

variable {Certificate Key : Type} (codec : CredentialCodec Certificate Key)

/-- The identity that the files of the client make up, if they do. -/
def clientIdentity (disk : CredentialDisk) : Option (ClientIdentity Certificate Key) := do
  let file ← disk .certificate
  let certificate ← codec.readCertificate file
  guard (0 < file.length ∧ file.length < 4096)
  let key ← codec.readKey (← disk .key)
  return { certificate, certificateHex := bytesToHex file, key }

end

-----------------------------------------------------------------------------------------
-- Effects
-----------------------------------------------------------------------------------------

section

variable {files : CredentialFile → Prop} {before after : CredentialDisk} {file : CredentialFile}

theorem SameBut.refl (files : CredentialFile → Prop) (disk : CredentialDisk)
    : SameBut files disk disk :=
  fun _ _ => rfl

theorem SameBut.trans {middle : CredentialDisk} (first : SameBut files before middle)
    (second : SameBut files middle after)
    : SameBut files before after :=
  fun file outside => (second file outside).trans (first file outside)

theorem SameBut.wider {more : CredentialFile → Prop} (same : SameBut files before after)
    (inside : ∀ file, files file → more file)
    : SameBut more before after :=
  fun file outside => same file fun member => outside (inside file member)

theorem SameBut.write (same : SameBut files before after) (inside : files file)
    (bytes : List UInt8)
    : SameBut files before (after.write file bytes) := by
  intro other outside
  have apart : other ≠ file := fun equal => outside (equal ▸ inside)
  exact (Function.update_of_ne apart _ _).trans (same other outside)

theorem SameBut.remove (same : SameBut files before after) (inside : files file)
    : SameBut files before (after.remove file) := by
  intro other outside
  have apart : other ≠ file := fun equal => outside (equal ▸ inside)
  exact (Function.update_of_ne apart _ _).trans (same other outside)

/-- A relation that writing to a file keeps is kept by opening it. -/
theorem openTruncated_keeps {holds : CredentialDisk → Prop} (opens : Bool)
    (kept : ∀ disk bytes, holds disk → holds (disk.write file bytes))
    : Keeps holds (openTruncated file opens) := by
  cases opens with
  | false => exact .pure fun _ => id
  | true => exact .bind (.keep fun disk => kept disk []) fun _ => .pure fun _ => id

/-- And by storing bytes there, which are there as a whole if that is complete. -/
theorem storeBytes_runs {holds : CredentialDisk → Prop} (data : List UInt8) (answer : StoreAnswer)
    (kept : ∀ disk bytes, holds disk → holds (disk.write file bytes))
    : Runs holds holds (storeBytes file data answer)
        (fun _ disk => holds disk ∧ (answer.complete = true → disk file = some data)) := by
  refine .bind (.keep fun disk => kept disk _) fun _ => ?_
  refine .effect fun disk start => ⟨kept disk _ start, kept disk _ start, fun complete => ?_⟩
  rw [if_pos complete]
  exact Function.update_self _ _ _

end

/-- Reading leaves the disk, and what is read is there. -/
theorem openRead_runs (file : CredentialFile) (opens : Bool) (disk : CredentialDisk)
    (during : CredentialDisk → Prop)
    : Runs (· = disk) during (openRead file opens)
        (fun read now => now = disk ∧ ∀ bytes, read = some bytes → disk file = some bytes) := by
  refine .look fun now same => ⟨same, fun bytes read => ?_⟩
  split at read
  · exact same ▸ read
  · cases read

-----------------------------------------------------------------------------------------
-- The unique id
-----------------------------------------------------------------------------------------

theorem length_bytesToHex (bytes : List UInt8) : (bytesToHex bytes).length = 2 * bytes.length := by
  induction bytes with
  | nil => rfl
  | cons byte rest ih =>
      rw [bytesToHex, List.flatMap_cons, List.length_append, ← bytesToHex, ih, List.length_cons]
      simp only [List.length_cons, List.length_nil]
      omega

/-- An id that is on the disk is loaded, and nothing is written. -/
theorem loadUniqueId_held {disk : CredentialDisk} {id : List UInt8} (held : disk.HoldsId id)
    {answers : UniqueIdAnswers} (opens : answers.opens = true)
    : Reads disk (loadUniqueId answers) (· = .ok (id, true)) := by
  obtain ⟨file, present, rfl, whole⟩ := held
  refine Reads.look_bind ?_
  rw [if_pos opens, present]
  dsimp only
  rw [Option.getD_some, if_pos whole]
  exact .pure rfl

/-- Loading the id writes to no other file, and an id that is durable is on the disk. -/
theorem loadUniqueId_runs (answers : UniqueIdAnswers) (disk : CredentialDisk)
    : Runs (· = disk) (SameBut (· = .uniqueId) disk) (loadUniqueId answers)
        (fun answer after =>
          SameBut (· = .uniqueId) disk after
          ∧ ∀ id kept,
              answer = .ok (id, kept)
              → (kept || answers.stored.complete) = true
              → after.HoldsId id) := by
  have writes (now : CredentialDisk) (bytes : List UInt8) (same : SameBut (· = .uniqueId) disk now)
      : SameBut (· = .uniqueId) disk (now.write .uniqueId bytes) :=
    same.write rfl bytes
  refine (openRead_runs .uniqueId answers.opens disk _).bind fun file => ?_
  dsimp only
  by_cases whole : ((file.getD []).take uniqueIdChars).length = uniqueIdChars
  · rw [if_pos whole]
    refine .pure fun now ⟨same, read⟩ => ⟨same ▸ .refl _ _, fun id kept loaded _ => ?_⟩
    rw [Except.ok.injEq, Prod.mk.injEq] at loaded
    obtain ⟨rfl, rfl⟩ := loaded
    cases file with
    | none => cases whole
    | some bytes => exact ⟨bytes, same ▸ read bytes rfl, rfl, whole⟩
  · rw [if_neg whole]
    cases answers.random with
    | none =>
        exact .pure fun now ⟨same, _⟩ => ⟨same ▸ .refl _ _, fun id kept loaded => by cases loaded⟩
    | some random =>
        have opened : Keeps (SameBut (· = .uniqueId) disk) _ :=
          openTruncated_keeps answers.creates writes
        refine Runs.bind (opened.weaken (fun now start => ?_) fun _ _ => id) fun opened => ?_
        · exact start.1 ▸ .refl _ _
        cases opened with
        | false => exact .pure fun now same => ⟨same, fun id kept loaded => by cases loaded⟩
        | true =>
            have stored :=
              storeBytes_runs (bytesToHex random.bytes) answers.stored writes
            refine stored.bind fun _ => .pure fun now ⟨same, complete⟩ => ⟨same, ?_⟩
            intro id kept loaded durable
            split at loaded
            · rw [Except.ok.injEq, Prod.mk.injEq] at loaded
              obtain ⟨rfl, rfl⟩ := loaded
              have long : (bytesToHex random.bytes).length = uniqueIdChars := by
                rw [length_bytesToHex, random.length]
                rfl
              exact ⟨_, complete durable, long ▸ List.take_length, long⟩
            · cases loaded

-----------------------------------------------------------------------------------------
-- The client's certificate
-----------------------------------------------------------------------------------------

section

variable {Certificate Key : Type} {codec : CredentialCodec Certificate Key}

/-- Reading the key completes an identity whose certificate was read. -/
theorem readPrivateKey_reads (opens : Bool) {disk : CredentialDisk} {file : List UInt8}
    {certificate : Certificate} (present : disk .certificate = some file)
    (read : codec.readCertificate file = some certificate)
    (fits : 0 < file.length ∧ file.length < 4096)
    : Reads disk (readPrivateKey codec opens certificate (file.take 4096))
        (fun answer =>
          ∀ identity, answer = .ok identity → clientIdentity codec disk = some identity) := by
  refine Reads.look_bind ?_
  cases opens with
  | false => exact .pure fun identity loaded => by cases loaded
  | true =>
      rw [if_pos rfl]
      cases stored : disk .key with
      | none => exact .pure fun identity loaded => by cases loaded
      | some keyFile =>
          dsimp only
          cases decoded : codec.readKey keyFile with
          | none => exact .pure fun identity loaded => by cases loaded
          | some key =>
              refine .pure fun identity loaded => ?_
              rw [List.take_of_length_le (Nat.le_of_lt fits.2), Except.ok.injEq] at loaded
              rw [clientIdentity, present, ← loaded]
              simp [read, fits, stored, decoded]

/-- Reading the identity writes nothing, and what is read is what the files make up. -/
theorem readIdentity_reads (answers : CertificateAnswers Certificate Key) {disk : CredentialDisk}
    {file : List UInt8} (present : disk .certificate = some file)
    : Reads disk (readIdentity codec answers file)
        (fun answer =>
          ∀ identity, answer = .ok identity → clientIdentity codec disk = some identity) := by
  rw [readIdentity]
  cases read : codec.readCertificate file with
  | none => exact .pure fun identity loaded => by cases loaded
  | some certificate =>
      dsimp only
      split
      · exact .pure fun identity loaded => by cases loaded
      · rename_i fits
        split
        · exact .pure fun identity loaded => by cases loaded
        · refine Reads.look_bind ?_
          rw [present]
          cases answers.opensRaw with
          | false => exact .pure fun identity loaded => by cases loaded
          | true =>
              rw [if_pos rfl]
              dsimp only
              split
              · exact .pure fun identity loaded => by cases loaded
              · exact readPrivateKey_reads answers.opensKey present read (by omega)

/-- Saving the certificate writes to the client's files only. -/
theorem saveCertificateFiles_runs (codec : CredentialCodec Certificate Key)
    (answers : SaveAnswers Certificate Key) (disk : CredentialDisk)
    : Keeps (SameBut CredentialFile.IsClient disk) (saveCertificateFiles codec answers) := by
  have kept {file : CredentialFile} (inside : file.IsClient) (now : CredentialDisk)
      (bytes : List UInt8) (same : SameBut CredentialFile.IsClient disk now)
      : SameBut CredentialFile.IsClient disk (now.write file bytes) :=
    same.write inside bytes
  have writes (file : CredentialFile) (inside : file.IsClient) (data : List UInt8)
      (answer : StoreAnswer)
      : Keeps (SameBut CredentialFile.IsClient disk) (writeOpened file data answer) :=
    .keep fun now => kept inside now _
  have closes (file : CredentialFile) (inside : file.IsClient) (data : List UInt8)
      (answer : StoreAnswer)
      : Keeps (SameBut CredentialFile.IsClient disk) (closeWritten file data answer) :=
    .keep fun now => kept inside now _
  rw [saveCertificateFiles]
  cases answers.generated with
  | error message => exact .pure fun _ => id
  | ok pair =>
      refine .bind (openTruncated_keeps _ (kept trivial)) fun _ => ?_
      refine .bind (openTruncated_keeps _ (kept trivial)) fun _ => ?_
      refine .bind (openTruncated_keeps _ (kept trivial)) fun _ => ?_
      split
      · exact .pure fun _ => id
      · refine .bind (writes .certificate trivial _ _) fun _ => ?_
        split
        · exact .bind (closes .certificate trivial _ _) fun _ => .pure fun _ => id
        · refine .bind (writes .key trivial _ _) fun _ => ?_
          split
          · refine .bind (closes .certificate trivial _ _) fun _ => ?_
            exact .bind (closes .key trivial _ _) fun _ => .pure fun _ => id
          · refine .bind (writes .p12 trivial _ _) fun _ => ?_
            refine .bind (closes .certificate trivial _ _) fun _ => ?_
            refine .bind (closes .key trivial _ _) fun _ => ?_
            refine .bind (closes .p12 trivial _ _) fun _ => ?_
            split <;> exact .pure fun _ => id

/-- Loading the certificate writes to the client's files only, and what is loaded is what they make
up.
-/
theorem loadCertificate_runs (codec : CredentialCodec Certificate Key)
    (answers : CertificateAnswers Certificate Key) (disk : CredentialDisk)
    : Runs (· = disk) (SameBut CredentialFile.IsClient disk) (loadCertificate codec answers)
        (fun answer after =>
          SameBut CredentialFile.IsClient disk after
          ∧ ∀ identity, answer = .ok identity → clientIdentity codec after = some identity) := by
  have failed (error : CredentialError) (state : CredentialDisk)
      (same : SameBut CredentialFile.IsClient disk state)
      : Reads state
          (pure (.error error)
            : Routine CredentialDisk (Except CredentialError (ClientIdentity Certificate Key)))
          (fun answer =>
            SameBut CredentialFile.IsClient disk state
            ∧ ∀ identity, answer = .ok identity → clientIdentity codec state = some identity) :=
    .pure ⟨same, fun identity loaded => by cases loaded⟩
  have identified {file : List UInt8} {state : CredentialDisk}
      (same : SameBut CredentialFile.IsClient disk state)
      (present : state .certificate = some file)
      : Reads state (readIdentity codec answers file)
          (fun answer =>
            SameBut CredentialFile.IsClient disk state
            ∧ ∀ identity, answer = .ok identity → clientIdentity codec state = some identity) :=
    (readIdentity_reads answers present).weaken (fun _ => id) fun answer now ⟨still, holds⟩ =>
      ⟨still, same, holds⟩
  rw [loadCertificate]
  split
  · exact Reads.runs fun state start => start ▸ failed _ disk (.refl _ _)
  · refine (openRead_runs .certificate answers.opens disk _).bind fun file => ?_
    cases file with
    | some file =>
        exact Reads.runs fun state ⟨start, read⟩ => start ▸ identified (.refl _ _) (read file rfl)
    | none =>
        have saved := saveCertificateFiles_runs codec answers.save disk
        refine Runs.bind (saved.weaken (fun now start => start.1 ▸ .refl _ _) fun _ _ => id) ?_
        intro outcome
        cases outcome with
        | error error => exact Reads.runs fun state same => failed _ state same
        | ok done =>
            refine Reads.runs fun state same => Reads.look_bind ?_
            cases answers.opensSaved with
            | false => exact failed _ state same
            | true =>
                cases present : state .certificate with
                | none =>
                    rw [if_pos rfl]
                    exact failed _ state same
                | some file =>
                    rw [if_pos rfl]
                    exact identified same present

/-- With a certificate that can be opened, nothing is written. -/
theorem loadCertificate_present (codec : CredentialCodec Certificate Key)
    {answers : CertificateAnswers Certificate Key} {disk : CredentialDisk}
    (present : disk .certificate ≠ none) (opens : answers.opens = true)
    : Reads disk (loadCertificate codec answers)
        (fun answer =>
          ∀ identity, answer = .ok identity → clientIdentity codec disk = some identity) := by
  obtain ⟨file, present⟩ := Option.ne_none_iff_exists'.mp present
  rw [loadCertificate]
  split
  · exact .pure fun identity loaded => by cases loaded
  · refine Reads.look_bind ?_
    rw [if_pos opens, present]
    exact readIdentity_reads answers present

/-- Loading the certificate of a server writes nothing. -/
theorem loadPinnedCertificate_reads (codec : CredentialCodec Certificate Key)
    (path : Option String) (opens : Bool) (disk : CredentialDisk)
    : Reads disk (loadPinnedCertificate codec path opens) (fun _ => True) := by
  cases path with
  | none => exact .pure trivial
  | some directory =>
      rw [loadPinnedCertificate]
      split
      · exact .pure trivial
      · refine Reads.look_bind ?_
        cases disk (.pin directory) with
        | none => exact .pure trivial
        | some file =>
            rw [if_pos rfl]
            dsimp only
            cases codec.readCertificate file <;> exact .pure trivial

/-- Saving the certificate of a server leaves the files of the client. -/
theorem savePinned_keeps (codec : CredentialCodec Certificate Key) (path : Option String)
    (certificate : Certificate) (answers : PinAnswers) (disk : CredentialDisk)
    : Keeps (SameBut (¬ ·.IsOwn) disk) (savePinned codec path certificate answers) := by
  cases path with
  | none => exact .pure fun _ => id
  | some directory =>
      have writes (now : CredentialDisk) (bytes : List UInt8) (same : SameBut (¬ ·.IsOwn) disk now)
          : SameBut (¬ ·.IsOwn) disk (now.write (.temporary directory) bytes) :=
        same.write id bytes
      rw [savePinned]
      refine .bind (openTruncated_keeps answers.opens writes) fun opened => ?_
      split
      · exact .pure fun _ => id
      · have stored := storeBytes_runs (codec.writeCertificate certificate) answers.stored writes
        refine .bind (stored.weaken (fun _ => id) fun _ _ => And.left) fun _ => ?_
        split
        · refine .bind (.keep fun now same => ?_) fun _ => .pure fun _ => id
          intro file outside
          have apart : file ≠ .temporary directory ∧ file ≠ .pin directory := by
            constructor <;> exact fun equal => outside (equal ▸ id)
          rw [CredentialDisk.rename, Function.update_of_ne apart.1, Function.update_of_ne apart.2]
          exact same file outside
        · split
          · exact .bind (.keep fun now same => same.remove id) fun _ => .pure fun _ => id
          · exact .pure fun _ => id

/-- Removing a PC touches its directory only. -/
theorem sameBut_removeDevice (directory : String) (answers : RemovalAnswers)
    (disk : CredentialDisk)
    : SameBut (·.directory = directory) disk (disk.removeDevice directory answers) :=
  fun _ outside => if_neg fun inside => outside inside.1

/-- So it leaves the files of the client where it is not theirs. -/
theorem removeDevice_spares {directory : String} (spared : directory ≠ clientDirectory)
    (answers : RemovalAnswers) (disk : CredentialDisk)
    : SameBut (¬ ·.IsOwn) disk (disk.removeDevice directory answers) := by
  refine (sameBut_removeDevice directory answers disk).wider fun file inside own => ?_
  cases file with
  | uniqueId | certificate | key | p12 => exact spared inside.symm
  | pin _ | temporary _ => exact own

-----------------------------------------------------------------------------------------
-- Starts
-----------------------------------------------------------------------------------------

/-- The choice is a start, whole or cut off. -/
def CredentialChoice.Starts (choice : CredentialChoice Certificate Key) (path : Option String)
    (answers : InitAnswers Certificate Key)
    : Prop :=
  match choice with
  | .init here these | .initCut here these _ => here = path ∧ these = answers
  | _ => False

/-- What a start shows of the client. -/
def CredentialLabel.IsClient : CredentialLabel Certificate Key → Prop
  | .uniqueId _ _ | .identity _ => True
  | _ => False

/-- A start can open the files of the client that are there. -/
structure InitAnswers.OpensClient (answers : InitAnswers Certificate Key) : Prop where
  uniqueId : answers.uniqueId.opens = true
  certificate : answers.certificate.opens = true

/-- What the identity of the client rests on: a start can open the client's files that are there, and
no PC is removed whose directory is the client's.
-/
structure CredentialChoice.SparesClient (choice : CredentialChoice Certificate Key) : Prop where
  opens : ∀ path answers, choice.Starts path answers → answers.OpensClient
  keeps : ∀ answers, choice ≠ .forget clientDirectory answers

section

variable {History : Type} (observe : History → CredentialLabel Certificate Key → History)
  (permits : History → CredentialLabel Certificate Key → Prop)
  (kept : History → CredentialDisk → Prop)

/-- What is loaded may be, and the disk is as the history behind it tells. -/
def Loaded {α : Type} (past : History) (label : α → CredentialLabel Certificate Key)
    : Except CredentialError α → CredentialDisk → Prop
  | .error _, disk => kept past disk
  | .ok value, disk => permits past (label value) ∧ kept (observe past (label value)) disk

/-- What a start shows of the certificate of the server. -/
def pinLabel (path : Option String)
    : Except CredentialError (Option Certificate) → CredentialLabel Certificate Key
  | .error error => .unpinned path error
  | .ok found => .pinned path found

variable {observe permits kept}

/-- A start is as its three loadings are. -/
theorem initWorker_runs {during : CredentialDisk → Prop} {past : History} {disk : CredentialDisk}
    {path : Option String} {answers : InitAnswers Certificate Key} (start : kept past disk)
    (loadsId
      : Runs (· = disk) during (loadUniqueId answers.uniqueId)
          (Loaded observe permits kept past fun loaded =>
            .uniqueId loaded.1 (loaded.2 || answers.uniqueId.stored.complete)))
    (loadsCertificate
      : ∀ label now,
          permits past label
          → kept (observe past label) now
          → Runs (· = now) during (loadCertificate codec answers.certificate)
              (Loaded observe permits kept (observe past label) .identity))
    (loadsPin
      : ∀ past now,
          kept past now
          → Reads now (loadPinnedCertificate codec path answers.opensPin)
              (fun answer =>
                permits past (pinLabel path answer)
                ∧ kept (observe past (pinLabel path answer)) now))
    : Runs (· = disk) during (initWorker codec path answers)
        (fun labels now => CallKept observe permits kept past (now, labels)) := by
  rw [initWorker]
  split
  · exact .pure fun now same => .silent (same ▸ start)
  · refine loadsId.bind fun answer => ?_
    cases answer with
    | error error => exact .pure fun now kept => .silent kept
    | ok loaded =>
        refine Runs.each fun now ⟨first, known⟩ => ?_
        refine (loadsCertificate _ now first known).bind fun answer => ?_
        cases answer with
        | error error => exact .pure fun later kept => .single first kept
        | ok identity =>
            dsimp only
            split
            · exact .pure fun later ⟨second, kept⟩ => .precede first (.single second kept)
            · refine Runs.each fun later ⟨second, kept⟩ => ?_
              refine ((loadsPin _ later kept).along fun _ => False.elim).bind fun answer => ?_
              cases answer with
              | error error =>
                  refine .pure fun last ⟨same, third, kept⟩ => ?_
                  exact .precede first (.precede second (.single third (same ▸ kept)))
              | ok found =>
                  refine .pure fun last ⟨same, third, kept⟩ => ?_
                  exact .precede first (.precede second (.single third (same ▸ kept)))

/-- A step is a start, or it leaves the files of the client, unless their directory is removed. -/
theorem credentialStep_client {past : History} {disk : CredentialDisk}
    {choice : CredentialChoice Certificate Key}
    {outcome : CredentialDisk × List (CredentialLabel Certificate Key)}
    (taken : credentialStep codec disk choice = some outcome)
    (keeps : ∀ answers, choice ≠ .forget clientDirectory answers)
    (starts
      : ∀ path answers,
          choice.Starts path answers
          → Runs (· = disk) (kept past) (initWorker codec path answers)
              (fun labels now => CallKept observe permits kept past (now, labels)))
    (others : ∀ after, SameBut (¬ ·.IsOwn) disk after → kept past after)
    (quiet : ∀ label, ¬ label.IsClient → permits past label ∧ observe past label = past)
    : CallKept observe permits kept past outcome := by
  have single {label : CredentialLabel Certificate Key} {after : CredentialDisk}
      (other : ¬ label.IsClient) (same : SameBut (¬ ·.IsOwn) disk after)
      : CallKept observe permits kept past (after, [label]) := by
    obtain ⟨permitted, unseen⟩ := quiet label other
    exact .single permitted (unseen.symm ▸ others after same)
  cases choice with
  | init path answers =>
      cases taken
      exact (starts path answers ⟨rfl, rfl⟩).ended disk rfl
  | initCut path answers count =>
      cases taken
      refine .silent ?_
      obtain start | still := (starts path answers ⟨rfl, rfl⟩).cutOff rfl count
      · exact start.symm ▸ others disk (.refl _ _)
      · exact still
  | save path certificate answers =>
      cases taken
      have saved := savePinned_keeps codec path certificate answers disk
      exact single id (saved.ended disk (.refl _ _))
  | saveCut path certificate answers count =>
      cases taken
      refine single id ?_
      have saved := savePinned_keeps codec path certificate answers disk
      obtain start | still := saved.cutOff (.refl _ _) count
      · exact start.symm ▸ .refl _ _
      · exact still
  | forget directory answers =>
      cases taken
      refine single id (removeDevice_spares (fun theirs => ?_) answers disk)
      exact keeps answers (theirs ▸ rfl)

end

-----------------------------------------------------------------------------------------
-- What a run tells
-----------------------------------------------------------------------------------------

/-- What the starts before have loaded for good. -/
structure ClientHistory (Certificate Key : Type) where
  uniqueId : Option (List UInt8) := none
  identity : Option (ClientIdentity Certificate Key) := none

namespace ClientHistory

def observe (past : ClientHistory Certificate Key)
    : CredentialLabel Certificate Key → ClientHistory Certificate Key
  | .uniqueId id true => { past with uniqueId := some id }
  | .identity identity => { past with identity := some identity }
  | _ => past

/-- A start loads what was loaded for good before. -/
def Permits (past : ClientHistory Certificate Key) : CredentialLabel Certificate Key → Prop
  | .uniqueId id durable => ∀ first, past.uniqueId = some first → id = first ∧ durable = true
  | .identity identity => ∀ first, past.identity = some first → identity = first
  | _ => True

end ClientHistory

/-- The files hold what was loaded for good. -/
structure ClientKept (codec : CredentialCodec Certificate Key)
    (past : ClientHistory Certificate Key) (disk : CredentialDisk) : Prop where
  uniqueId : ∀ id, past.uniqueId = some id → disk.HoldsId id
  identity : ∀ identity, past.identity = some identity → clientIdentity codec disk = some identity

/-- A call that keeps the files. -/
abbrev ClientCallKept (codec : CredentialCodec Certificate Key)
    (past : ClientHistory Certificate Key)
    (outcome : CredentialDisk × List (CredentialLabel Certificate Key)) : Prop :=
  CallKept ClientHistory.observe ClientHistory.Permits (ClientKept codec) past outcome

/-- What is loaded of the client may be, and is then there. -/
abbrev ClientLoaded {α : Type} (codec : CredentialCodec Certificate Key)
    (past : ClientHistory Certificate Key) (label : α → CredentialLabel Certificate Key)
    : Except CredentialError α → CredentialDisk → Prop :=
  Loaded ClientHistory.observe ClientHistory.Permits (ClientKept codec) past label

/-- The files that the identity of the client is read from. -/
theorem clientIdentity_congr {disk after : CredentialDisk}
    (certificate : after .certificate = disk .certificate) (key : after .key = disk .key)
    : clientIdentity codec after = clientIdentity codec disk := by
  rw [clientIdentity, clientIdentity, certificate, key]

/-- An identity needs a certificate. -/
theorem certificate_of_clientIdentity {disk : CredentialDisk}
    {identity : ClientIdentity Certificate Key} (held : clientIdentity codec disk = some identity)
    : disk .certificate ≠ none := by
  intro absent
  rw [clientIdentity, absent] at held
  cases held

namespace ClientKept

variable {past : ClientHistory Certificate Key} {disk after : CredentialDisk}

/-- The files of the client are as before. -/
theorem along (kept : ClientKept codec past disk) (same : SameBut (¬ ·.IsOwn) disk after)
    : ClientKept codec past after where
  uniqueId id first := by
    obtain ⟨file, present, whole⟩ := kept.uniqueId id first
    exact ⟨file, (same .uniqueId (not_not_intro trivial)).trans present, whole⟩
  identity identity first := by
    rw [clientIdentity_congr (same .certificate (not_not_intro trivial))
      (same .key (not_not_intro trivial))]
    exact kept.identity identity first

/-- What held behind a label held before it. -/
theorem before {label : CredentialLabel Certificate Key} (permitted : past.Permits label)
    (kept : ClientKept codec (past.observe label) disk)
    : ClientKept codec past disk := by
  cases label with
  | uniqueId id durable =>
      cases durable with
      | false => exact kept
      | true =>
          refine { kept with uniqueId := fun first held => ?_ }
          exact (permitted first held).1 ▸ kept.uniqueId id rfl
  | identity identity =>
      refine { kept with identity := fun first held => ?_ }
      exact permitted first held ▸ kept.identity identity rfl
  | pinned _ _ | unpinned _ _ | saved _ _ _ | savingCut _ _ | forgotten _ _ => exact kept

/-- Only the file of the id has changed, and no id was loaded for good. -/
theorem unidentified (kept : ClientKept codec past disk) (absent : past.uniqueId = none)
    (same : SameBut (· = .uniqueId) disk after)
    : ClientKept codec past after where
  uniqueId id first := by cases absent.symm.trans first
  identity identity first := by
    rw [clientIdentity_congr (same .certificate (by simp)) (same .key (by simp))]
    exact kept.identity identity first

/-- An id that is loaded is the one that was loaded for good, and is then there. -/
theorem loadUniqueId (kept : ClientKept codec past disk) {answers : UniqueIdAnswers}
    (opens : answers.opens = true)
    : Runs (· = disk) (ClientKept codec past) (loadUniqueId answers)
        (ClientLoaded codec past fun loaded =>
          .uniqueId loaded.1 (loaded.2 || answers.stored.complete)) := by
  cases first : past.uniqueId with
  | some whole =>
      have held := kept.uniqueId whole first
      have loads := loadUniqueId_held held opens
      refine (loads.along fun _ => False.elim).weaken (fun _ => id) ?_
      rintro _ _ ⟨rfl, rfl⟩
      refine ⟨fun other same => ?_, ?_⟩
      · exact ⟨Option.some.inj (first.symm.trans same), rfl⟩
      · exact { kept with uniqueId := fun other same => Option.some.inj same ▸ held }
  | none =>
      have loads := loadUniqueId_runs answers disk
      refine (loads.along fun now => kept.unidentified first).weaken (fun _ => id) ?_
      rintro answer now ⟨same, loaded⟩
      have still := kept.unidentified first same
      cases answer with
      | error error => exact still
      | ok pair =>
          obtain ⟨id, read⟩ := pair
          refine ⟨fun other same => (by cases first.symm.trans same), ?_⟩
          dsimp only
          cases durable : read || answers.stored.complete with
          | false => exact still
          | true =>
              refine { still with uniqueId := fun other same => ?_ }
              exact Option.some.inj same ▸ loaded id read rfl durable

/-- An identity that is loaded is the one that was loaded before. -/
theorem loadCertificate (kept : ClientKept codec past disk)
    {answers : CertificateAnswers Certificate Key} (opens : answers.opens = true)
    : Runs (· = disk) (ClientKept codec past) (loadCertificate codec answers)
        (ClientLoaded codec past .identity) := by
  have identified {answer : Except CredentialError (ClientIdentity Certificate Key)}
      {now : CredentialDisk} (still : ClientKept codec past now)
      (loaded : ∀ identity, answer = .ok identity → clientIdentity codec now = some identity)
      : ClientLoaded codec past .identity answer now := by
    cases answer with
    | error error => exact still
    | ok identity =>
        have held := loaded identity rfl
        refine ⟨fun first same => ?_, { still with identity := fun first same => ?_ }⟩
        · exact Option.some.inj (held.symm.trans (still.identity first same))
        · exact Option.some.inj same ▸ held
  by_cases present : disk .certificate = none
  · have loads := loadCertificate_runs codec answers disk
    have unidentified {now : CredentialDisk} (same : SameBut CredentialFile.IsClient disk now)
        : ClientKept codec past now :=
      {
        uniqueId := fun id first => by
          obtain ⟨file, there, whole⟩ := kept.uniqueId id first
          exact ⟨file, (same .uniqueId not_false).trans there, whole⟩
        identity := fun identity first =>
          absurd present (certificate_of_clientIdentity (kept.identity identity first))
      }
    refine (loads.along fun now => unidentified).weaken (fun _ => id) ?_
    exact fun answer now ⟨same, loaded⟩ => identified (unidentified same) loaded
  · have loads := loadCertificate_present codec present opens
    refine (loads.along fun _ => False.elim).weaken (fun _ => id) ?_
    rintro answer _ ⟨rfl, loaded⟩
    exact identified kept loaded

/-- A start keeps what was loaded for good. -/
theorem initWorker (kept : ClientKept codec past disk) (path : Option String)
    {answers : InitAnswers Certificate Key} (opensId : answers.uniqueId.opens = true)
    (opensCertificate : answers.certificate.opens = true)
    : Runs (· = disk) (ClientKept codec past) (initWorker codec path answers)
        (fun labels now => ClientCallKept codec past (now, labels)) := by
  refine initWorker_runs kept (kept.loadUniqueId opensId) ?_ ?_
  · intro label now permitted known
    exact (known.loadCertificate opensCertificate).along fun _ => before permitted
  · intro past now known
    refine (loadPinnedCertificate_reads codec path answers.opensPin now).weaken (fun _ => id) ?_
    rintro (error | found) now ⟨rfl, -⟩
    · exact ⟨rfl, trivial, known⟩
    · exact ⟨rfl, trivial, known⟩

/-- Every step keeps what was loaded for good. -/
theorem step (kept : ClientKept codec past disk) {choice : CredentialChoice Certificate Key}
    {outcome : CredentialDisk × List (CredentialLabel Certificate Key)}
    (spares : choice.SparesClient) (taken : credentialStep codec disk choice = some outcome)
    : ClientCallKept codec past outcome := by
  refine
    credentialStep_client taken spares.keeps (fun path answers starts => ?_) (fun _ => kept.along) ?_
  · obtain ⟨opensId, opensCertificate⟩ := spares.opens path answers starts
    exact kept.initWorker path opensId opensCertificate
  · intro label other
    cases label <;> first | exact absurd trivial other | exact ⟨trivial, rfl⟩

end ClientKept

-----------------------------------------------------------------------------------------
-- Runs
-----------------------------------------------------------------------------------------

/-- What the labels of a run tell of the client. -/
def clientHistory (trace : List (CredentialLabel Certificate Key)) : ClientHistory Certificate Key :=
  trace.foldl ClientHistory.observe {}

/-- A line in front of a body or behind it. -/
def pemLine (place kind : String) : List UInt8 :=
  ("-----" ++ place ++ " " ++ kind ++ "-----\n").toList.map fun c => UInt8.ofNat c.toNat

def pemFrame (kind : String) (body : List UInt8) : List UInt8 :=
  pemLine "BEGIN" kind ++ body ++ pemLine "END" kind

/-- The body between the lines, if both are there. -/
def pemBody (kind : String) (file : List UInt8) : Option (List UInt8) :=
  let lines := (pemLine "BEGIN" kind).length + (pemLine "END" kind).length
  let body := (file.drop (pemLine "BEGIN" kind).length).take (file.length - lines)
  if file = pemFrame kind body then some body else none

/-- An encoding between the lines of the PEM format. -/
def pemCodec : CredentialCodec (List UInt8) (List UInt8) where
  writeCertificate := pemFrame "CERTIFICATE"
  readCertificate := pemBody "CERTIFICATE"
  writeKey := pemFrame "PRIVATE KEY"
  readKey := pemBody "PRIVATE KEY"
  writeP12 key certificate := key ++ certificate

def pemCertificate : List UInt8 := [77, 73, 73, 67, 10]

def pemKey : List UInt8 := [77, 73, 73, 69, 10]

/-- Everything is stored at the closing of its file. -/
def stored : StoreAnswer := ⟨0, 0, true, true⟩

def wholePin : PinAnswers := ⟨true, stored, true, true⟩

def wholeRemoval : RemovalAnswers := ⟨true, fun _ => true⟩

/-- A start at which every call succeeds. -/
def wholeStart : InitAnswers (List UInt8) (List UInt8) where
  directories := true
  uniqueId := ⟨true, some ⟨List.replicate 8 173, rfl⟩, true, stored⟩
  certificate :=
    {
      allocated := true
      opens := true
      save := ⟨.ok (pemKey, pemCertificate), true, true, true, stored, stored, stored⟩
      opensSaved := true
      bufferAllocated := true
      opensRaw := true
      opensKey := true
    }
  curl := true
  opensPin := true

theorem sparesClient_wholeStart
    : (CredentialChoice.init (some "host") wholeStart).SparesClient where
  opens := by
    rintro _ _ ⟨-, rfl⟩
    exact ⟨rfl, rfl⟩
  keeps _ same := by cases same

theorem sparesClient_saveCut {path : Option String} {certificate : List UInt8}
    {answers : PinAnswers} {count : Nat}
    : (.saveCut path certificate answers count
        : CredentialChoice (List UInt8) (List UInt8)).SparesClient where
  opens _ _ starts := by cases starts
  keeps _ same := by cases same

theorem sparesClient_forget {directory : String} (other : directory ≠ clientDirectory)
    {answers : RemovalAnswers}
    : (.forget directory answers : CredentialChoice (List UInt8) (List UInt8)).SparesClient where
  opens _ _ starts := by cases starts
  keeps _ same := by
    cases same
    exact other rfl

/-- In every run whose starts can open the files that are there and whose removals are of PCs beside
the client's directory, with the power going at any point, a unique id that was read from the disk or
stored there as a whole is the id of every later start, and an identity that was loaded is loaded
again by every later start that loads one.
-/
theorem client_identity_stable {trace : List (CredentialLabel Certificate Key)}
    {disk : CredentialDisk}
    (reached
      : (credentialMachine codec).ReachesWhen (fun _ _ choice => choice.SparesClient) trace disk)
    : Guarded (fun before label => (clientHistory before).Permits label) trace := by
  have base (disk : CredentialDisk) (_ : (credentialMachine codec).initial disk)
      : ClientKept codec {} disk :=
    ⟨fun id first => (by cases first), fun identity first => (by cases first)⟩
  exact
    (reached.keeps base fun _ past disk choice outcome kept spares taken =>
      kept.step spares taken).1

/-- An id and a certificate behind which the power goes while the server's certificate is saved, the
removal of that server, and the next start.
-/
theorem client_identity_stable_restart
    : Guarded (fun before label => (clientHistory before).Permits label)
        [.uniqueId (bytesToHex (List.replicate 8 173)) true,
          .identity ⟨pemCertificate, bytesToHex (pemCodec.writeCertificate pemCertificate), pemKey⟩,
          .pinned (some "host") none, .savingCut (some "host") pemCertificate,
          .forgotten "host" true, .uniqueId (bytesToHex (List.replicate 8 173)) true,
          .identity ⟨pemCertificate, bytesToHex (pemCodec.writeCertificate pemCertificate), pemKey⟩,
          .pinned (some "host") none] :=
  have empty : (credentialMachine pemCodec).initial fun _ => none := fun _ => rfl
  client_identity_stable
    (Machine.reachesWhen_run (credentialMachine pemCodec) _ empty
      [.init (some "host") wholeStart, .saveCut (some "host") pemCertificate wholePin 2,
        .forget "host" wholeRemoval, .init (some "host") wholeStart]
      ⟨sparesClient_wholeStart, sparesClient_saveCut, sparesClient_forget (by decide),
        sparesClient_wholeStart, trivial⟩
      rfl)

/-- A start at which the random generator yields something else. -/
def otherStart : InitAnswers (List UInt8) (List UInt8) :=
  { wholeStart with uniqueId := ⟨true, some ⟨List.replicate 8 9, rfl⟩, true, stored⟩ }

-- A PC whose directory is the client's takes the identity along.
example
    : ((credentialMachine pemCodec).run (fun _ => none)
          [.init none wholeStart, .forget "client" wholeRemoval, .init none otherStart]).map
        (fun outcome => outcome.2.filter (fun label => label matches .uniqueId _ _))
      = some
        [.uniqueId (bytesToHex (List.replicate 8 173)) true,
          .uniqueId (bytesToHex (List.replicate 8 9)) true] :=
  rfl

/-- Only identities that the files of the client make up on a disk. -/
def PermitsMade (codec : CredentialCodec Certificate Key) (disk : CredentialDisk)
    : CredentialLabel Certificate Key → Prop
  | .identity identity => clientIdentity codec disk = some identity
  | _ => True

/-- The certificate and the key are as on a disk that has a certificate. -/
structure ClientSame (disk now : CredentialDisk) : Prop where
  present : disk .certificate ≠ none
  certificate : now .certificate = disk .certificate
  key : now .key = disk .key

/-- A call that leaves the certificate and the key, and loads no other identity than they make up. -/
abbrev ClientSameCall (codec : CredentialCodec Certificate Key) (disk : CredentialDisk)
    (outcome : CredentialDisk × List (CredentialLabel Certificate Key)) : Prop :=
  CallKept (fun past _ => past) (fun _ => PermitsMade codec disk) (fun _ => ClientSame disk) ()
    outcome

namespace ClientSame

variable {disk now after : CredentialDisk}

theorem along (same : ClientSame disk now) (certificate : after .certificate = now .certificate)
    (key : after .key = now .key)
    : ClientSame disk after :=
  ⟨same.present, certificate.trans same.certificate, key.trans same.key⟩

/-- With a certificate that it can open, a start reads the files of the client only. -/
theorem initWorker (same : ClientSame disk now) (path : Option String)
    {answers : InitAnswers Certificate Key} (opens : answers.certificate.opens = true)
    : Runs (· = now) (ClientSame disk) (initWorker codec path answers)
        (fun labels after => ClientSameCall codec disk (after, labels)) := by
  refine initWorker_runs same ?_ ?_ ?_
  · have loads := loadUniqueId_runs answers.uniqueId now
    have still (later : CredentialDisk) (but : SameBut (· = .uniqueId) now later)
        : ClientSame disk later :=
      same.along (but .certificate (by simp)) (but .key (by simp))
    refine (loads.along still).weaken (fun _ => id) ?_
    rintro (error | loaded) later ⟨but, -⟩
    · exact still later but
    · exact ⟨trivial, still later but⟩
  · intro label later _ still
    have present : later .certificate ≠ none := still.certificate.symm ▸ still.present
    have loads := loadCertificate_present codec present opens
    refine (loads.along fun _ => False.elim).weaken (fun _ => id) ?_
    rintro (error | identity) _ ⟨rfl, made⟩
    · exact still
    · refine ⟨?_, still⟩
      exact (clientIdentity_congr still.certificate still.key).symm.trans (made identity rfl)
  · intro past later still
    refine (loadPinnedCertificate_reads codec path answers.opensPin later).weaken (fun _ => id) ?_
    rintro (error | found) later ⟨rfl, -⟩
    · exact ⟨rfl, trivial, still⟩
    · exact ⟨rfl, trivial, still⟩

/-- Every step leaves the certificate and the key. -/
theorem step (same : ClientSame disk now) {choice : CredentialChoice Certificate Key}
    {outcome : CredentialDisk × List (CredentialLabel Certificate Key)}
    (spares : choice.SparesClient) (taken : credentialStep codec now choice = some outcome)
    : ClientSameCall codec disk outcome := by
  refine
    credentialStep_client taken spares.keeps (fun path answers starts => ?_) (fun after but => ?_) ?_
  · exact same.initWorker path (spares.opens path answers starts).certificate
  · exact same.along (but .certificate (not_not_intro trivial)) (but .key (not_not_intro trivial))
  · intro label other
    cases label <;> first | exact absurd trivial other | exact ⟨trivial, rfl⟩

/-- So does every run, by induction on its choices. -/
theorem run (same : ClientSame disk now) {choices : List (CredentialChoice Certificate Key)}
    {final : CredentialDisk} {trace : List (CredentialLabel Certificate Key)}
    (spares : ∀ choice ∈ choices, choice.SparesClient)
    (ran : (credentialMachine codec).run now choices = some (final, trace))
    : ClientSame disk final
      ∧ ∀ identity, .identity identity ∈ trace → clientIdentity codec disk = some identity := by
  induction choices generalizing now trace with
  | nil =>
      cases ran
      exact ⟨same, fun identity member => by cases member⟩
  | cons choice rest ih =>
      obtain ⟨after, emitted, later, taken, tail, rfl⟩ := Machine.run_cons_eq_some ran
      rw [List.forall_mem_cons] at spares
      have call := same.step spares.1 taken
      obtain ⟨kept, made⟩ := ih call.kept spares.2 tail
      refine ⟨kept, fun identity member => ?_⟩
      obtain early | late := List.mem_append.mp member
      · exact call.permitted.forall_mem _ early
      · exact made identity late

end ClientSame

/-- Once there is a certificate of the client, no call has a say in the identity but the removal of a
PC whose directory is the client's: every start loads the one that the certificate and the key make
up. If they make up none, as behind a power cut between the storing of the two, no start loads an
identity ever again.
-/
theorem client_identity_decided {disk final : CredentialDisk} (present : disk .certificate ≠ none)
    {choices : List (CredentialChoice Certificate Key)}
    {trace : List (CredentialLabel Certificate Key)}
    (spares : ∀ choice ∈ choices, choice.SparesClient)
    (ran : (credentialMachine codec).run disk choices = some (final, trace))
    : clientIdentity codec final = clientIdentity codec disk
      ∧ ∀ identity, .identity identity ∈ trace → clientIdentity codec disk = some identity := by
  obtain ⟨kept, made⟩ := ClientSame.run ⟨present, rfl, rfl⟩ spares ran
  exact ⟨clientIdentity_congr kept.certificate kept.key, made⟩

/-- The power has gone between the storing of the certificate and of the key. -/
def cutStart : CredentialDisk :=
  (initWorker pemCodec (some "host") wholeStart).cutOff 10 fun _ => none

/-- What comes behind it: a PC is removed, and the next start. -/
def nextCalls : List (CredentialChoice (List UInt8) (List UInt8)) :=
  [.forget "host" wholeRemoval, .init (some "host") wholeStart]

/-- It reads the id, and no identity. -/
theorem client_identity_decided_cutStart
    : clientIdentity pemCodec cutStart = none
      ∧ ∀ identity,
          .identity identity
            ∈ ([.forgotten "host" true, .uniqueId (bytesToHex (List.replicate 8 173)) true]
              : List (CredentialLabel (List UInt8) (List UInt8)))
          → clientIdentity pemCodec cutStart = some identity := by
  have present : cutStart .certificate ≠ none := fun absent => by cases absent
  have spares : ∀ choice ∈ nextCalls, choice.SparesClient := by
    rw [nextCalls, List.forall_mem_cons, List.forall_mem_singleton]
    exact ⟨sparesClient_forget (by decide), sparesClient_wholeStart⟩
  have ran
      : (credentialMachine pemCodec).run cutStart nextCalls
        = some
          ((initWorker pemCodec (some "host") wholeStart
              (cutStart.removeDevice "host" wholeRemoval)).final,
            [.forgotten "host" true, .uniqueId (bytesToHex (List.replicate 8 173)) true]) :=
    rfl
  exact ⟨rfl, (client_identity_decided present spares ran).2⟩

end

end VitaMoonlight
