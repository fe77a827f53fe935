import VitaMoonlight.Backend.Device

/-! Which records survive being saved and loaded again.
The writer prints raw strings, one line each; the reader takes lines apart. A record comes
back unchanged exactly when each of its strings is a plain value whose line fits.
-/

namespace VitaMoonlight.DeviceInfo

open Library Library.CText Inih

-----------------------------------------------------------------------------------------
-- The written file as lines
-----------------------------------------------------------------------------------------

/-- The keys and texts of the written lines. -/
def iniPairs (info : DeviceInfo) : List (List UInt8 × List UInt8) :=
  [((CString.ofLiteral "name").bytes, info.name.text.bytes),
    ((CString.ofLiteral "paired").bytes, (boolText info.paired).bytes),
    ((CString.ofLiteral "host_id").bytes, info.hostId.text.bytes),
    ((CString.ofLiteral "internal").bytes, info.internal.text.bytes),
    ((CString.ofLiteral "external").bytes, info.external.text.bytes),
    ((CString.ofLiteral "mac").bytes, info.mac.text.bytes),
    ((CString.ofLiteral "port").bytes, decimal info.port.toNat),
    ((CString.ofLiteral "prefer_external").bytes, (boolText info.preferExternal).bytes)]

theorem iniText_eq (info : DeviceInfo) : info.iniText = pairsText info.iniPairs := by
  simp [iniText, iniPairs, pairsText, pairLine, writeString]

theorem iniHandle_accepts : Handler.Accepts iniHandle := fun _ _ _ _ => rfl

/-- The strings of a record that the file holds. -/
def strings (info : DeviceInfo) : List (List UInt8) :=
  [info.name.text.bytes, info.hostId.text.bytes, info.internal.text.bytes,
    info.external.text.bytes, info.mac.text.bytes]

theorem newline_notMem_boolText (value : Bool) : newline ∉ (boolText value).bytes := by
  cases value <;> decide

/-- A digit is neither blank, a comment sign nor a terminator. -/
theorem isDigit_plain {c : UInt8} (digit : isDigit c = true)
    : isSpace c = false ∧ c ≠ semicolon ∧ c ≠ newline ∧ c ≠ 0 := by
  simp only [isDigit, Bool.and_eq_true, decide_eq_true_eq] at digit
  refine ⟨?_, ?_, ?_, ?_⟩
  · simp only [isSpace, Bool.or_eq_false_iff, beq_eq_false_iff_ne, Bool.and_eq_false_iff,
      decide_eq_false_iff_not]
    refine ⟨by rintro rfl; exact absurd digit.1 (by decide), .inr fun low => ?_⟩
    exact absurd (UInt8.le_trans digit.1 low) (by decide)
  · rintro rfl
    exact absurd digit.2 (by decide)
  · rintro rfl
    exact absurd digit.1 (by decide)
  · rintro rfl
    exact absurd digit.1 (by decide)

theorem plainValue_decimal (value : Nat) : PlainValue (decimal value) := by
  have plain : ∀ c ∈ decimal value, isSpace c = false ∧ c ≠ semicolon ∧ c ≠ newline ∧ c ≠ 0 :=
    fun c member => isDigit_plain (isDigit_of_mem_decimal member)
  refine ⟨fun member => (plain _ member).2.2.1 rfl, fun c member => ?_, fun c member => ?_, ?_⟩
  · have known := plain c (List.mem_of_mem_head? member)
    exact ⟨known.1, known.2.1⟩
  · exact (plain c (List.mem_of_mem_getLast? member)).1
  · intro front blank rest split
    exact (plain blank (by simp [split])).1

theorem nul_notMem_decimal (value : Nat) : 0 ∉ decimal value :=
  fun member => (isDigit_plain (isDigit_of_mem_decimal member)).2.2.2 rfl

theorem cleanPair_string {key : List UInt8} (plain : PlainKey key) (text : CString)
    (oneLine : newline ∉ text.bytes)
    : CleanPair (key, text.bytes) :=
  ⟨plain, oneLine, text.noNul⟩

theorem cleanPair_decimal {key : List UInt8} (plain : PlainKey key) (value : Nat)
    : CleanPair (key, decimal value) :=
  ⟨plain, (plainValue_decimal value).oneLine, nul_notMem_decimal value⟩

/-- The written lines are clean once no string of the record spans lines. -/
theorem cleanPair_iniPairs {info : DeviceInfo} (oneLine : ∀ text ∈ info.strings, newline ∉ text)
    : ∀ pair ∈ info.iniPairs, CleanPair pair := by
  simp only [strings, List.forall_mem_cons, List.not_mem_nil, false_implies, implies_true,
    and_true] at oneLine
  obtain ⟨name, hostId, internal, external, mac⟩ := oneLine
  simp only [iniPairs, List.forall_mem_cons, List.not_mem_nil, false_implies, implies_true,
    and_true]
  exact ⟨cleanPair_string (by decide) _ name,
    cleanPair_string (by decide) _ (newline_notMem_boolText _),
    cleanPair_string (by decide) _ hostId,
    cleanPair_string (by decide) _ internal,
    cleanPair_string (by decide) _ external,
    cleanPair_string (by decide) _ mac,
    cleanPair_decimal (by decide) _,
    cleanPair_string (by decide) _ (newline_notMem_boolText _)⟩

-----------------------------------------------------------------------------------------
-- What the handler stores
-----------------------------------------------------------------------------------------

section Handler

variable (info : DeviceInfo) (currentSection value : CString)

theorem iniHandle_name
    : (iniHandle info currentSection (.ofLiteral "name") value).1
      = { info with name := .copy 256 value } := by
  rw [iniHandle, if_pos rfl]

theorem iniHandle_paired
    : (iniHandle info currentSection (.ofLiteral "paired") value).1
      = { info with paired := parseBool value } := by
  rw [iniHandle, if_neg (by decide), if_pos rfl]

theorem iniHandle_hostId
    : (iniHandle info currentSection (.ofLiteral "host_id") value).1
      = { info with hostId := .copy 33 value } := by
  rw [iniHandle, if_neg (by decide), if_neg (by decide), if_pos rfl]

theorem iniHandle_internal
    : (iniHandle info currentSection (.ofLiteral "internal") value).1
      = { info with internal := .copy 256 value } := by
  rw [iniHandle, if_neg (by decide), if_neg (by decide), if_neg (by decide), if_pos rfl]

theorem iniHandle_external
    : (iniHandle info currentSection (.ofLiteral "external") value).1
      = { info with external := .copy 256 value } := by
  rw [iniHandle, if_neg (by decide), if_neg (by decide), if_neg (by decide),
    if_neg (by decide), if_pos rfl]

theorem iniHandle_mac
    : (iniHandle info currentSection (.ofLiteral "mac") value).1
      = { info with mac := .copy 18 value } := by
  rw [iniHandle, if_neg (by decide), if_neg (by decide), if_neg (by decide),
    if_neg (by decide), if_neg (by decide), if_pos rfl]

theorem iniHandle_port
    : (iniHandle info currentSection (.ofLiteral "port") value).1
      = { info with port := parsePort value } := by
  rw [iniHandle, if_neg (by decide), if_neg (by decide), if_neg (by decide),
    if_neg (by decide), if_neg (by decide), if_neg (by decide), if_pos rfl]

theorem iniHandle_preferExternal
    : (iniHandle info currentSection (.ofLiteral "prefer_external") value).1
      = { info with preferExternal := parseBool value } := by
  rw [iniHandle, if_neg (by decide), if_neg (by decide), if_neg (by decide),
    if_neg (by decide), if_neg (by decide), if_neg (by decide), if_neg (by decide), if_pos rfl]

end Handler

/-- The value read back from the line of a text. -/
def readBack (text : List UInt8) : CString := .ofBytes (pairValue text)

theorem readBack_eq (text : List UInt8) : CString.ofBytes (pairValue text) = readBack text := rfl

theorem parseBool_boolText (value : Bool) : parseBool (readBack (boolText value).bytes) = value := by
  cases value <;> decide

theorem parsePort_decimal (port : UInt16) : parsePort (readBack (decimal port.toNat)) = port := by
  have plain := plainValue_decimal port.toNat
  have small : port.toNat ≤ 2147483647 := by
    have := port.toNat_lt
    omega
  rw [parsePort, readBack, (pairValue_eq_self_iff plain.oneLine).mpr plain,
    CString.bytes_ofBytes (nul_notMem_decimal _), atoi_decimal small, UInt16.ofInt]
  have inRange : ((port.toNat : Int) % 2 ^ 16).toNat = port.toNat := by
    have := port.toNat_lt
    omega
  rw [inRange, UInt16.ofNat_toNat]

/-- Every line sets its own field to what is read back from it. -/
theorem handlePairs_iniPairs (info fresh : DeviceInfo)
    : handlePairs iniHandle info.iniPairs fresh
      = { fresh with
          name := .copy 256 (readBack info.name.text.bytes)
          paired := info.paired
          hostId := .copy 33 (readBack info.hostId.text.bytes)
          internal := .copy 256 (readBack info.internal.text.bytes)
          external := .copy 256 (readBack info.external.text.bytes)
          mac := .copy 18 (readBack info.mac.text.bytes)
          port := info.port
          preferExternal := info.preferExternal } := by
  simp only [handlePairs, iniPairs, List.foldl_cons, List.foldl_nil, CString.ofBytes_bytes,
    readBack_eq, iniHandle_name, iniHandle_paired, iniHandle_hostId, iniHandle_internal,
    iniHandle_external, iniHandle_mac, iniHandle_port, iniHandle_preferExternal,
    parseBool_boolText, parsePort_decimal]

/-- A reader that only cuts hands an array its own text exactly when it cut nothing. -/
theorem copy_readBack_iff {size : Nat} [NeZero size] (array : CharArray size)
    : CharArray.copy size (readBack array.text.bytes) = array
      ↔ pairValue array.text.bytes = array.text.bytes := by
  constructor
  · intro same
    have text := congrArg (fun copied => copied.text.bytes) same
    simp only [CharArray.text_copy, CString.bytes_take, readBack, CString.ofBytes] at text
    have within : array.text.bytes <+: pairValue array.text.bytes := by
      nth_rewrite 1 [← text]
      exact (List.take_prefix _ _).trans (List.takeWhile_prefix _)
    exact (within.eq_of_length_le (length_pairValue_le _)).symm
  · intro same
    rw [readBack, same, CString.ofBytes_bytes, CharArray.copy_text]

-----------------------------------------------------------------------------------------
-- Surviving a restart
-----------------------------------------------------------------------------------------

/-- The record that loading makes of the saved file, starting as `load_all_known_devices`
does from the directory's name.
-/
def reload (info : DeviceInfo) (directory : CharArray 256) : Option DeviceInfo :=
  DeviceInfo.load (some info.iniText) { name := directory, storageName := directory }

/-- Saving and loading succeed and bring back every saved field. -/
def Survives (info : DeviceInfo) (directory : CharArray 256) : Prop :=
  ∃ loaded,
    info.reload directory = some loaded
    ∧ loaded.name = info.name
    ∧ loaded.paired = info.paired
    ∧ loaded.hostId = info.hostId
    ∧ loaded.internal = info.internal
    ∧ loaded.external = info.external
    ∧ loaded.mac = info.mac
    ∧ loaded.port = info.port
    ∧ loaded.preferExternal = info.preferExternal

/-- Every string of the record is a plain value, and the lines of the name and of the
addresses fit the reader's buffer; the other lines always do.
-/
structure Storable (info : DeviceInfo) : Prop where
  plain : ∀ text ∈ info.strings, PlainValue text
  nameFits : info.name.text.length ≤ 191
  internalFits : info.internal.text.length ≤ 187
  externalFits : info.external.text.length ≤ 187

theorem fitsLine_boolText {key : List UInt8} (short : key.length ≤ 20) (value : Bool)
    : FitsLine (key, (boolText value).bytes) := by
  have printed : (boolText value).bytes.length ≤ 5 := by cases value <;> decide
  simp only [FitsLine, maxLine]
  omega

/-- The lines that vary without bound are those of the name and of the addresses. -/
theorem fitsLine_iniPairs_iff (info : DeviceInfo)
    : (∀ pair ∈ info.iniPairs, FitsLine pair)
      ↔ info.name.text.length ≤ 191
        ∧ info.internal.text.length ≤ 187
        ∧ info.external.text.length ≤ 187 := by
  have name : (CString.ofLiteral "name").bytes.length = 4 := by decide
  have hostId : (CString.ofLiteral "host_id").bytes.length = 7 := by decide
  have internal : (CString.ofLiteral "internal").bytes.length = 8 := by decide
  have external : (CString.ofLiteral "external").bytes.length = 8 := by decide
  have mac : (CString.ofLiteral "mac").bytes.length = 3 := by decide
  have port : (CString.ofLiteral "port").bytes.length = 4 := by decide
  have digits : (decimal info.port.toNat).length ≤ 10 :=
    length_decimal_le (by
      have := info.port.toNat_lt
      omega)
  have hostIdFits := info.hostId.fits
  have macFits := info.mac.fits
  simp only [CString.length] at hostIdFits macFits ⊢
  simp only [iniPairs, List.forall_mem_cons, List.not_mem_nil, false_implies, implies_true,
    and_true]
  constructor
  · rintro ⟨nameLine, -, -, internalLine, externalLine, -⟩
    simp only [FitsLine, maxLine, name, internal, external] at nameLine internalLine externalLine
    omega
  · rintro ⟨nameShort, internalShort, externalShort⟩
    refine ⟨?_, fitsLine_boolText (by decide) _, ?_, ?_, ?_, ?_, ?_,
      fitsLine_boolText (by decide) _⟩
    all_goals
      simp only [FitsLine, maxLine, name, hostId, internal, external, mac, port]
      omega

/-- No string of the record spans lines. -/
def OneLineStrings (info : DeviceInfo) : Prop := ∀ text ∈ info.strings, newline ∉ text

theorem newline_notMem_copy {size : Nat} [NeZero size] {value : CString}
    (oneLine : newline ∉ value.bytes)
    : newline ∉ (CharArray.copy size value).text.bytes :=
  fun member => oneLine (List.mem_of_mem_take member)

theorem oneLineStrings_iff (info : DeviceInfo)
    : info.OneLineStrings
      ↔ newline ∉ info.name.text.bytes
        ∧ newline ∉ info.hostId.text.bytes
        ∧ newline ∉ info.internal.text.bytes
        ∧ newline ∉ info.external.text.bytes
        ∧ newline ∉ info.mac.text.bytes := by
  simp [OneLineStrings, strings]

/-- Storing a value on one line keeps every string on one line, whatever the key. -/
theorem OneLineStrings.iniHandle {info : DeviceInfo} (before : info.OneLineStrings)
    (currentSection name : CString) {value : CString} (oneLine : newline ∉ value.bytes)
    : (iniHandle info currentSection name value).1.OneLineStrings := by
  rw [oneLineStrings_iff] at before
  obtain ⟨nameOne, hostId, internal, external, mac⟩ := before
  rw [DeviceInfo.iniHandle]
  split_ifs <;> rw [oneLineStrings_iff]
  · exact ⟨newline_notMem_copy oneLine, hostId, internal, external, mac⟩
  · exact ⟨nameOne, hostId, internal, external, mac⟩
  · exact ⟨nameOne, newline_notMem_copy oneLine, internal, external, mac⟩
  · exact ⟨nameOne, hostId, newline_notMem_copy oneLine, external, mac⟩
  · exact ⟨nameOne, hostId, internal, newline_notMem_copy oneLine, mac⟩
  · exact ⟨nameOne, hostId, internal, external, newline_notMem_copy oneLine⟩
  · exact ⟨nameOne, hostId, internal, external, mac⟩
  · exact ⟨nameOne, hostId, internal, external, mac⟩
  · exact ⟨nameOne, hostId, internal, external, mac⟩

/-- No loaded string spans lines, whatever the strings of the saved record held. Witness:
the first line sets the name, and a line never hands over a newline.
-/
theorem OneLineStrings.of_reload {info loaded : DeviceInfo} {directory : CharArray 256}
    (read : info.reload directory = some loaded)
    : loaded.OneLineStrings := by
  have text
      : info.iniText
        = (CString.ofLiteral "name").bytes ++ 32 :: 61 :: 32
          :: (info.name.text.bytes ++ newline :: pairsText info.iniPairs.tail) := by
    rw [iniText_eq, iniPairs, pairsText_cons]
    simp
  obtain ⟨fuel, size⟩ : ∃ fuel, info.iniText.length = fuel + 1 :=
    Nat.exists_eq_succ_of_ne_zero (by simp [text])
  simp only [reload, DeviceInfo.load, iniParse] at read
  obtain ⟨-, same⟩ := Option.ite_none_right_eq_some.mp read
  obtain rfl := Option.some.inj same
  rw [size, text]
  refine parseLoop_first iniHandle_accepts (by decide) (by decide) ?_ ?_ _ _
  · intro currentSection value oneLine
    rw [CString.ofBytes_bytes, iniHandle_name, oneLineStrings_iff]
    refine ⟨newline_notMem_copy oneLine, ?_, ?_, ?_, ?_⟩
    all_goals exact List.not_mem_nil
  · intro user currentSection name value before oneLine
    exact before.iniHandle currentSection name oneLine

/-- Loading the saved file of a record without newlines succeeds exactly when the lines fit,
and then reads every line back.
-/
theorem reload_eq {info : DeviceInfo} (oneLine : info.OneLineStrings)
    (directory : CharArray 256)
    : (∀ pair ∈ info.iniPairs, FitsLine pair)
        ∧ info.reload directory
          = some (handlePairs iniHandle info.iniPairs
              { name := directory, storageName := directory, port := 47989 })
      ∨ (¬∀ pair ∈ info.iniPairs, FitsLine pair) ∧ info.reload directory = none := by
  rcases iniParse_pairs iniHandle_accepts (cleanPair_iniPairs oneLine)
      { name := directory, storageName := directory, port := 47989 }
    with ⟨fits, parsed⟩ | ⟨long, failed⟩
  · exact .inl ⟨fits, by simp [reload, DeviceInfo.load, iniText_eq, parsed]⟩
  · exact .inr ⟨long, by simp [reload, DeviceInfo.load, iniText_eq, failed]⟩

theorem Survives.storable {info : DeviceInfo} {directory : CharArray 256}
    (survives : info.Survives directory)
    : info.Storable := by
  obtain ⟨loaded, reloaded, name, -, hostId, internal, external, mac, -⟩ := survives
  have oneLine : info.OneLineStrings := by
    have same : info.strings = loaded.strings := by
      simp [strings, name, hostId, internal, external, mac]
    rw [OneLineStrings, same]
    exact OneLineStrings.of_reload reloaded
  rcases reload_eq oneLine directory with ⟨fits, parsed⟩ | ⟨-, failed⟩
  · obtain rfl := Option.some.inj (reloaded.symm.trans parsed)
    rw [handlePairs_iniPairs] at name hostId internal external mac
    obtain ⟨nameFits, internalFits, externalFits⟩ := (fitsLine_iniPairs_iff info).mp fits
    refine ⟨?_, nameFits, internalFits, externalFits⟩
    obtain ⟨nameOne, hostIdOne, internalOne, externalOne, macOne⟩ :=
      (oneLineStrings_iff info).mp oneLine
    simp only [strings, List.forall_mem_cons, List.not_mem_nil, false_implies, implies_true,
      and_true]
    exact ⟨(pairValue_eq_self_iff nameOne).mp ((copy_readBack_iff _).mp name),
      (pairValue_eq_self_iff hostIdOne).mp ((copy_readBack_iff _).mp hostId),
      (pairValue_eq_self_iff internalOne).mp ((copy_readBack_iff _).mp internal),
      (pairValue_eq_self_iff externalOne).mp ((copy_readBack_iff _).mp external),
      (pairValue_eq_self_iff macOne).mp ((copy_readBack_iff _).mp mac)⟩
  · rw [failed] at reloaded
    contradiction

theorem Storable.survives {info : DeviceInfo} (storable : info.Storable)
    (directory : CharArray 256)
    : info.Survives directory := by
  obtain ⟨plain, nameFits, internalFits, externalFits⟩ := storable
  have fits := (fitsLine_iniPairs_iff info).mpr ⟨nameFits, internalFits, externalFits⟩
  rcases reload_eq (fun text member => (plain text member).oneLine) directory
    with ⟨-, parsed⟩ | ⟨long, -⟩
  · simp only [strings, List.forall_mem_cons, List.not_mem_nil, false_implies, implies_true,
      and_true] at plain
    obtain ⟨name, hostId, internal, external, mac⟩ := plain
    have kept {size : Nat} [NeZero size] {array : CharArray size}
        (value : PlainValue array.text.bytes)
        : CharArray.copy size (readBack array.text.bytes) = array :=
      (copy_readBack_iff array).mpr ((pairValue_eq_self_iff value.oneLine).mpr value)
    rw [handlePairs_iniPairs] at parsed
    exact ⟨_, parsed, kept name, rfl, kept hostId, kept internal, kept external, kept mac,
      rfl, rfl⟩
  · exact absurd fits long

/-- Exactly the storable records survive a restart, in whatever directory they are kept. -/
theorem survives_iff (info : DeviceInfo) (directory : CharArray 256)
    : info.Survives directory ↔ info.Storable :=
  ⟨Survives.storable, fun storable => storable.survives directory⟩

/-- A PC whose name holds a comment sign. -/
def commentNamed : DeviceInfo where
  name := .copy 256 (.ofLiteral "Desk ;2")
  storageName := .copy 256 (.ofLiteral "Desk ;2")
  internal := .copy 256 (.ofLiteral "10.0.0.1")
  port := 47989

/-- Its name comes back cut. -/
theorem comment_does_not_survive
    : ¬∀ (info : DeviceInfo) (directory : CharArray 256), info.Survives directory := by
  intro law
  have storable := (law commentNamed commentNamed.storageName).storable
  have plain := storable.plain (CString.ofLiteral "Desk ;2").bytes (by decide)
  exact absurd (plain.noComment (CString.ofLiteral "Desk").bytes 32 [50] (by decide)) (by decide)

end VitaMoonlight.DeviceInfo
