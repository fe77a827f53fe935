import VitaMoonlight.GameStream.CredentialPersistence
import VitaMoonlight.GameStream.Pairing

/-! What the files of the servers' certificates keep over restarts and power cuts: a certificate is
replaced as a whole or not at all, so that none is ever found damaged.
-/

namespace VitaMoonlight

open Library

section

variable {Certificate Key : Type} {codec : CredentialCodec Certificate Key}

-----------------------------------------------------------------------------------------
-- Saving a certificate
-----------------------------------------------------------------------------------------

/-- The certificate has been put in its place, and the temporary file is gone. -/
structure PinPlaced (codec : CredentialCodec Certificate Key) (directory : String)
    (certificate : Certificate) (disk after : CredentialDisk) : Prop where
  placed : after (.pin directory) = some (codec.writeCertificate certificate)
  others : SameBut (fun file => file = .temporary directory ∨ file = .pin directory) disk after

/-- Renaming the temporary file that holds the certificate puts it in place. -/
theorem PinPlaced.rename {directory : String} {certificate : Certificate}
    {disk now : CredentialDisk} (same : SameBut (· = .temporary directory) disk now)
    (stored : now (.temporary directory) = some (codec.writeCertificate certificate))
    : PinPlaced codec directory certificate disk
        (now.rename (.temporary directory) (.pin directory)) where
  placed := by
    rw [CredentialDisk.rename, Function.update_of_ne (by simp), Function.update_self]
    exact stored
  others file outside := by
    rw [not_or] at outside
    rw [CredentialDisk.rename, Function.update_of_ne outside.1, Function.update_of_ne outside.2]
    exact same file outside.1

/-- A certificate that is saved is in its place when the call succeeds, and on the way there is never
anything else there than the certificate before or the new one.
-/
theorem savePinned_runs (codec : CredentialCodec Certificate Key) (directory : String)
    (certificate : Certificate) (answers : PinAnswers) (disk : CredentialDisk)
    : Runs (· = disk)
        (fun now =>
          SameBut (· = .temporary directory) disk now
          ∨ PinPlaced codec directory certificate disk now)
        (savePinned codec (some directory) certificate answers)
        (fun succeeded now =>
          if succeeded then PinPlaced codec directory certificate disk now
          else SameBut (· = .temporary directory) disk now) := by
  have writes (now : CredentialDisk) (bytes : List UInt8)
      (same : SameBut (· = .temporary directory) disk now)
      : SameBut (· = .temporary directory) disk (now.write (.temporary directory) bytes) :=
    same.write rfl bytes
  rw [savePinned]
  have opened := openTruncated_keeps answers.opens writes
  refine Runs.bind ((opened.weaken ?_ fun _ _ => id).along fun _ => .inl) fun opened => ?_
  · exact fun now start => start ▸ .refl _ _
  cases opened with
  | false => exact .pure fun _ => id
  | true =>
      have stored := storeBytes_runs (codec.writeCertificate certificate) answers.stored writes
      refine (stored.along fun _ => .inl).bind fun _ => ?_
      by_cases replaces : (answers.stored.complete && answers.renames) = true
      · rw [if_pos replaces]
        have complete := (Bool.and_eq_true_iff.mp replaces).1
        refine Runs.bind ?_ fun _ => .pure fun _ => id
        exact .effect fun now start =>
          have placed := PinPlaced.rename start.1 (start.2 complete)
          ⟨.inr placed, placed⟩
      · rw [if_neg replaces]
        cases answers.removes with
        | false => exact .pure fun _ => And.left
        | true =>
            refine Runs.bind ?_ fun _ => .pure fun _ => id
            exact .effect fun now start =>
              have removed := start.1.remove rfl
              ⟨.inl removed, removed⟩

/-- The call does to the file of the certificate what the server's record of it says. -/
theorem savePinned_refines {path : Option String} {disk : CredentialDisk}
    {server : GameStreamServer Certificate} (hasPath : server.hasPath = path.isSome)
    {certificate : Certificate} (pinned : server.serverCertificate = some certificate)
    (held : ∀ directory ∈ path, disk (.pin directory) = server.pinFile.map codec.writeCertificate)
    (answers : PinAnswers)
    : let course := savePinned codec path certificate answers disk
      ∀ directory ∈ path,
        course.final (.pin directory)
          = (savePinnedCertificate server course.answer).pinFile.map codec.writeCertificate := by
  rintro course directory ⟨⟩
  have ended := (savePinned_runs codec directory certificate answers disk).ended disk rfl
  rw [savePinnedCertificate, hasPath, pinned, Option.isSome_some, Option.isSome_some,
    Bool.true_and, Bool.true_and]
  cases succeeded : course.answer with
  | false =>
      rw [show (savePinned codec (some directory) certificate answers disk).answer = false
        from succeeded] at ended
      exact (ended (.pin directory) (by simp)).trans (held directory rfl)
  | true =>
      rw [show (savePinned codec (some directory) certificate answers disk).answer = true
        from succeeded] at ended
      exact ended.placed

-----------------------------------------------------------------------------------------
-- What a run tells
-----------------------------------------------------------------------------------------

/-- The certificates that may be in each directory after the calls before. -/
abbrev PinHistory (Certificate : Type) : Type := String → List (Option Certificate)

namespace PinHistory

/-- A server that was saved has its certificate, one that was removed has none, where its file has
gone. A saving that is cut off leaves either certificate, until the next start tells which one it is.
-/
def observe (past : PinHistory Certificate) : CredentialLabel Certificate Key → PinHistory Certificate
  | .uniqueId _ _ => past
  | .identity _ => past
  | .pinned none _ => past
  | .pinned (some directory) found => Function.update past directory [found]
  | .unpinned _ _ => past
  | .saved (some directory) certificate true =>
      Function.update past directory [some certificate]
  | .saved _ _ _ => past
  | .savingCut none _ => past
  | .savingCut (some directory) certificate =>
      Function.update past directory (some certificate :: past directory)
  | .forgotten directory true => Function.update past directory [none]
  | .forgotten _ false => past

/-- A start finds a certificate that may be there. None is found damaged; a start that cannot tell
could not open the file. A server without a path has no certificate and gets none.
-/
def Permits (past : PinHistory Certificate) : CredentialLabel Certificate Key → Prop
  | .pinned none found => found = none
  | .pinned (some directory) found => found ∈ past directory
  | .unpinned _ error => error.result = .ioError
  | .saved none _ succeeded => succeeded = false
  | _ => True

end PinHistory

/-- Each directory holds one of the certificates that may be there. -/
def PinsKept (codec : CredentialCodec Certificate Key) (past : PinHistory Certificate)
    (disk : CredentialDisk)
    : Prop :=
  ∀ directory,
    ∃ found ∈ past directory, disk (.pin directory) = found.map codec.writeCertificate

/-- A call that keeps the directories. -/
abbrev PinCallKept (codec : CredentialCodec Certificate Key) (past : PinHistory Certificate)
    (outcome : CredentialDisk × List (CredentialLabel Certificate Key)) : Prop :=
  CallKept PinHistory.observe PinHistory.Permits (PinsKept codec) past outcome

namespace PinsKept

variable {past : PinHistory Certificate} {disk after : CredentialDisk}

/-- The directories are as before. -/
theorem along (kept : PinsKept codec past disk)
    (same : ∀ directory, after (.pin directory) = disk (.pin directory))
    : PinsKept codec past after :=
  fun directory => (same directory).symm ▸ kept directory

/-- One directory holds what it may hold now. -/
theorem settle (kept : PinsKept codec past disk) {directory : String}
    {may : List (Option Certificate)}
    (others : ∀ other ≠ directory, after (.pin other) = disk (.pin other))
    (here : ∃ found ∈ may, after (.pin directory) = found.map codec.writeCertificate)
    : PinsKept codec (Function.update past directory may) after := by
  intro other
  by_cases same : other = directory
  · rw [same, Function.update_self]
    exact here
  · rw [Function.update_of_ne same, others other same]
    exact kept other

-----------------------------------------------------------------------------------------
-- Calls
-----------------------------------------------------------------------------------------

/-- A certificate that is there is read as it was written. -/
theorem loadPinned (kept : PinsKept codec past disk)
    (decodes : ∀ certificate, codec.readCertificate (codec.writeCertificate certificate) = some certificate)
    (path : Option String) (opens : Bool)
    : Reads disk (loadPinnedCertificate codec path opens)
        (fun answer =>
          match answer with
          | .error error => error.result = .ioError
          | .ok found =>
              past.Permits (.pinned path found : CredentialLabel Certificate Key)
              ∧ ∀ directory ∈ path,
                  disk (.pin directory) = found.map codec.writeCertificate) := by
  cases path with
  | none => exact .pure ⟨rfl, fun _ absent => by cases absent⟩
  | some directory =>
      obtain ⟨found, may, holds⟩ := kept directory
      have here : ∀ other ∈ some directory, disk (.pin other) = found.map codec.writeCertificate := by
        rintro _ ⟨⟩
        exact holds
      rw [loadPinnedCertificate]
      cases opens with
      | false => exact .pure rfl
      | true =>
          refine Reads.look_bind ?_
          rw [if_pos rfl, holds]
          cases found with
          | none => exact .pure ⟨may, here⟩
          | some certificate =>
              dsimp only [Option.map_some]
              rw [decodes]
              exact .pure ⟨may, here⟩

/-- A start leaves the certificates as they are. -/
theorem initWorker (kept : PinsKept codec past disk)
    (decodes : ∀ certificate, codec.readCertificate (codec.writeCertificate certificate) = some certificate)
    (path : Option String) (answers : InitAnswers Certificate Key)
    : Runs (· = disk) (SameBut CredentialFile.IsOwn disk) (initWorker codec path answers)
        (fun labels now => PinCallKept codec past (now, labels)) := by
  -- What is kept between the loadings: the certificates, and which files have been touched.
  let between (past : PinHistory Certificate) (now : CredentialDisk) : Prop :=
    PinsKept codec past now ∧ SameBut CredentialFile.IsOwn disk now
  have touch {past : PinHistory Certificate} {before now : CredentialDisk}
      (held : between past before) (same : SameBut CredentialFile.IsOwn before now)
      : between past now :=
    ⟨held.1.along fun directory => same (.pin directory) id, held.2.trans same⟩
  have runs
      : Runs (· = disk) (SameBut CredentialFile.IsOwn disk)
          (VitaMoonlight.initWorker codec path answers)
          (fun labels now => CallKept PinHistory.observe PinHistory.Permits between past (now, labels)) := by
    refine initWorker_runs ⟨kept, .refl _ _⟩ ?_ ?_ ?_
    · have own {now : CredentialDisk} (same : SameBut (· = .uniqueId) disk now)
          : SameBut CredentialFile.IsOwn disk now :=
        same.wider fun file equal => equal ▸ trivial
      have loads := loadUniqueId_runs answers.uniqueId disk
      refine (loads.along fun now => own).weaken (fun _ => id) ?_
      rintro (error | loaded) now ⟨same, -⟩
      · exact touch ⟨kept, .refl _ _⟩ (own same)
      · exact ⟨trivial, touch ⟨kept, .refl _ _⟩ (own same)⟩
    · intro label now _ held
      have own {later : CredentialDisk} (same : SameBut CredentialFile.IsClient now later)
          : SameBut CredentialFile.IsOwn now later :=
        same.wider fun file => CredentialFile.IsClient.isOwn
      have loads := loadCertificate_runs codec answers.certificate now
      refine (loads.along fun later same => held.2.trans (own same)).weaken (fun _ => id) ?_
      rintro (error | identity) later ⟨same, -⟩
      · exact touch held (own same)
      · exact ⟨trivial, touch held (own same)⟩
    · intro past now held
      refine (held.1.loadPinned decodes path answers.opensPin).weaken (fun _ => id) ?_
      rintro (error | found) now ⟨rfl, answered⟩
      · exact ⟨rfl, answered, held⟩
      · obtain ⟨permitted, present⟩ := answered
        refine ⟨rfl, permitted, ?_, held.2⟩
        cases path with
        | none => exact held.1
        | some directory =>
            have here := present directory rfl
            exact held.1.settle (fun _ _ => rfl) ⟨found, List.mem_singleton_self _, here⟩
  exact runs.weaken (fun _ => id) fun labels now call => call.weaken fun _ _ => And.left

/-- Putting a certificate in its place. -/
theorem placed (kept : PinsKept codec past disk) {directory : String} {certificate : Certificate}
    (placed : PinPlaced codec directory certificate disk after) {may : List (Option Certificate)}
    (member : some certificate ∈ may)
    : PinsKept codec (Function.update past directory may) after :=
  kept.settle (fun other apart => placed.others _ (by simpa using apart))
    ⟨_, member, placed.placed⟩

/-- A saving puts the certificate in its place or leaves the place as it is. -/
theorem savePinned (kept : PinsKept codec past disk) (path : Option String)
    (certificate : Certificate) (answers : PinAnswers)
    : let course := savePinned codec path certificate answers disk
      PinCallKept codec past (course.final, [.saved path certificate course.answer]) := by
  cases path with
  | none => exact .single rfl kept
  | some directory =>
      intro course
      refine .single trivial ?_
      have ended
          : if course.answer then PinPlaced codec directory certificate disk course.final
            else SameBut (· = .temporary directory) disk course.final :=
        (savePinned_runs codec directory certificate answers disk).ended disk rfl
      cases succeeded : course.answer with
      | false =>
          rw [succeeded] at ended
          exact kept.along fun other => ended (.pin other) (by simp)
      | true =>
          rw [succeeded] at ended
          exact kept.placed ended (List.mem_singleton_self _)

/-- And when it is cut off, the place holds either certificate. -/
theorem savePinned_cut (kept : PinsKept codec past disk) (path : Option String)
    (certificate : Certificate) (answers : PinAnswers) (count : Nat)
    : PinCallKept codec past
        ((VitaMoonlight.savePinned codec path certificate answers).cutOff count disk,
          [.savingCut path certificate]) := by
  refine .single trivial ?_
  cases path with
  | none =>
      refine kept.along fun directory => ?_
      rw [Routine.cutOff, show (VitaMoonlight.savePinned codec none certificate answers disk).passed
        = [] from rfl, List.take_nil]
      rfl
  | some directory =>
      have unsettled {now : CredentialDisk} (same : ∀ other, now (.pin other) = disk (.pin other))
          : PinsKept codec
              (Function.update past directory (some certificate :: past directory)) now := by
        obtain ⟨found, member, holds⟩ := kept directory
        exact kept.settle (fun other _ => same other)
          ⟨found, List.mem_cons_of_mem _ member, (same directory).trans holds⟩
      have runs := savePinned_runs codec directory certificate answers disk
      obtain start | same | placed := runs.cutOff rfl count
      · exact unsettled fun other => congrFun start (.pin other)
      · exact unsettled fun other => same (.pin other) (by simp)
      · exact kept.placed placed List.mem_cons_self

/-- Removing a PC takes its certificate along, or leaves it where its file did not go. -/
theorem removeDevice (kept : PinsKept codec past disk) (directory : String)
    (answers : RemovalAnswers)
    : PinCallKept codec past
        (disk.removeDevice directory answers,
          [.forgotten directory (answers.goes (.pin directory))]) := by
  refine .single trivial ?_
  have others (other : String) (apart : other ≠ directory)
      : disk.removeDevice directory answers (.pin other) = disk (.pin other) :=
    sameBut_removeDevice directory answers disk (.pin other) apart
  cases goes : answers.goes (.pin directory) with
  | false =>
      refine kept.along fun other => ?_
      by_cases same : other = directory
      · exact if_neg (by simp [same, goes])
      · exact others other same
  | true =>
      have gone : disk.removeDevice directory answers (.pin directory) = none :=
        if_pos ⟨rfl, goes⟩
      exact kept.settle others ⟨none, List.mem_singleton_self _, gone⟩

/-- Every step keeps the directories. -/
theorem step (kept : PinsKept codec past disk)
    (decodes : ∀ certificate, codec.readCertificate (codec.writeCertificate certificate) = some certificate)
    {choice : CredentialChoice Certificate Key}
    {outcome : CredentialDisk × List (CredentialLabel Certificate Key)}
    (taken : credentialStep codec disk choice = some outcome)
    : PinCallKept codec past outcome := by
  cases choice with
  | init path answers =>
      cases taken
      exact (kept.initWorker decodes path answers).ended disk rfl
  | initCut path answers count =>
      cases taken
      refine .silent (kept.along fun directory => ?_)
      obtain start | same := (kept.initWorker decodes _ answers).cutOff rfl count
      · exact congrFun start (.pin directory)
      · exact same (.pin directory) id
  | save path certificate answers =>
      cases taken
      exact kept.savePinned path certificate answers
  | saveCut path certificate answers count =>
      cases taken
      exact kept.savePinned_cut path certificate answers count
  | forget directory answers =>
      cases taken
      exact kept.removeDevice directory answers

end PinsKept

-----------------------------------------------------------------------------------------
-- Runs
-----------------------------------------------------------------------------------------

/-- What the labels of a run tell of the certificates. -/
def pinHistory (trace : List (CredentialLabel Certificate Key)) : PinHistory Certificate :=
  trace.foldl PinHistory.observe fun _ => [none]

/-- In every run, with the power going at any point of a start or of a saving, a start finds the
certificate that was saved last in the directory of the PC, and none behind a removal that the file
went with; behind a saving that was cut off, this one or the one before. It never finds a damaged
one.
-/
theorem pinned_certificates_whole
    (decodes : ∀ certificate, codec.readCertificate (codec.writeCertificate certificate) = some certificate)
    {trace : List (CredentialLabel Certificate Key)} {disk : CredentialDisk}
    (reached : (credentialMachine codec).Reaches trace disk)
    : Guarded (fun before label => (pinHistory before).Permits label) trace := by
  have base (disk : CredentialDisk) (initial : (credentialMachine codec).initial disk)
      : PinsKept codec (fun _ => [none]) disk :=
    fun directory => ⟨none, List.mem_singleton_self _, initial directory⟩
  exact (reached.keeps base fun past disk choice outcome kept taken => kept.step decodes taken).1

/-- What lies between the lines is read as it was written. -/
theorem pemBody_pemFrame (kind : String) (body : List UInt8)
    : pemBody kind (pemFrame kind body) = some body := by
  have between
      : ((pemFrame kind body).drop (pemLine "BEGIN" kind).length).take
          ((pemFrame kind body).length
            - ((pemLine "BEGIN" kind).length + (pemLine "END" kind).length))
        = body := by
    rw [pemFrame, List.append_assoc, List.drop_left]
    refine List.take_left' ?_
    rw [List.length_append, List.length_append]
    omega
  rw [pemBody, between, if_pos rfl]

/-- A certificate that is replaced by one whose saving is cut off behind the renaming, and another
one whose saving is cut off before it. The PC is removed then, but its file stays.
-/
theorem pinned_certificates_whole_cut
    : Guarded (fun before label => (pinHistory before).Permits label)
        [.saved (some "host") pemCertificate true, .savingCut (some "host") [78, 10],
          .uniqueId (bytesToHex (List.replicate 8 173)) true,
          .identity ⟨pemCertificate, bytesToHex (pemCodec.writeCertificate pemCertificate), pemKey⟩,
          .pinned (some "host") (some [78, 10]), .savingCut (some "host") pemCertificate,
          .forgotten "host" false, .uniqueId (bytesToHex (List.replicate 8 173)) true,
          .identity ⟨pemCertificate, bytesToHex (pemCodec.writeCertificate pemCertificate), pemKey⟩,
          .pinned (some "host") (some [78, 10])] :=
  have empty : (credentialMachine pemCodec).initial fun _ => none := fun _ => rfl
  pinned_certificates_whole (pemBody_pemFrame "CERTIFICATE")
    ((credentialMachine pemCodec).reaches_run empty
      [.save (some "host") pemCertificate wholePin, .saveCut (some "host") [78, 10] wholePin 4,
        .init (some "host") wholeStart, .saveCut (some "host") pemCertificate wholePin 3,
        .forget "host" ⟨true, fun file => file = .temporary "host"⟩,
        .init (some "host") wholeStart]
      rfl)

end

end VitaMoonlight
