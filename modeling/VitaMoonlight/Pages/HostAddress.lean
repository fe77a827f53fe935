import VitaMoonlight.Library.CText

/-! The address of a PC as the keyboard returns it (`pages/page_main.cpp`): from UTF-16 to ASCII, and
from there to a host and a port.
-/

namespace VitaMoonlight

open Library

/-- A zero-terminated UTF-16 string, without the terminator. -/
structure WideString where
  units : List UInt16
  noNul : 0 ∉ units

/-- `kGameStreamPort`. -/
def gameStreamPort : UInt16 := 47989

/-- The colon. -/
def colon : UInt8 := 58

/-- The loop of `ConvertImeTextToAddress` from a position on. -/
def convertUnits (outputSize : Nat) : Nat → List UInt16 → Option (List UInt8)
  | _, [] => some []
  | length, unit :: rest =>
      if unit < 0x21 ∨ unit > 0x7e then none
      else if length + 1 ≥ outputSize then none
      else (convertUnits outputSize (length + 1) rest).map (unit.toUInt8 :: ·)

/-- `ConvertImeTextToAddress`, with the string that is left in the output. -/
def convertImeTextToAddress (input : WideString) (outputSize : Nat) : Option CString :=
  if outputSize < 2 then none
  else
    match convertUnits outputSize 0 input.units with
    | none => none
    | some output => if output.length > 0 then some (.ofBytes output) else none

/-- `ParsePort`. -/
def parsePort (text : CString) : Option UInt16 :=
  if text.isEmpty then none
  else if text.bytes.all CText.isDigit then
    let value := CText.strtoul text.bytes
    if value = 0 ∨ value > 65535 then none else some (UInt16.ofNat value)
  else none

/-- `ParseHostPort`. -/
def parseHostPort (input : CString) (hostSize : Nat) : Option (CString × UInt16) :=
  if input.isEmpty ∨ hostSize < 2 then none
  else
    match input.strchr colon, input.strrchr colon with
    | none, _ => if input.length ≥ hostSize then none else some (input, gameStreamPort)
    | some firstColon, lastColon =>
        if some firstColon ≠ lastColon then none
        else if firstColon = 0 ∨ firstColon ≥ hostSize then none
        else
          (parsePort (input.drop (firstColon + 1))).map fun port => (input.take firstColon, port)

/-- The keyboard's text as `Main::HandleAddPcImeResult` and `Main::StartManualConnection` read it. -/
def readImeAddress (input : WideString) : Option (CString × UInt16) :=
  (convertImeTextToAddress input 256).bind fun address => parseHostPort address 256

-----------------------------------------------------------------------------------------
-- The grammar
-----------------------------------------------------------------------------------------

/-- The number that decimal digits stand for. -/
def decimalValue (digits : List UInt8) : Nat :=
  Nat.ofDigits 10 (digits.reverse.map fun c => c.toNat - 48)

/-- A host, or a host, a colon and a port. -/
def AddressForm (text host : List UInt8) (port : UInt16) : Prop :=
  text = host ∧ host ≠ [] ∧ colon ∉ host ∧ port = 47989
  ∨ ∃ digits,
      text = host ++ colon :: digits
      ∧ host ≠ []
      ∧ colon ∉ host
      ∧ digits ≠ []
      ∧ (∀ c ∈ digits, CText.isDigit c = true)
      ∧ decimalValue digits = port.toNat
      ∧ 1 ≤ decimalValue digits
      ∧ decimalValue digits ≤ 65535

/-- What an address is: 1 to 255 printable characters without blanks, in one of the two forms. -/
def ImeAddress (input : WideString) (host : CString) (port : UInt16) : Prop :=
  1 ≤ input.units.length
  ∧ input.units.length ≤ 255
  ∧ (∀ unit ∈ input.units, 0x21 ≤ unit ∧ unit ≤ 0x7e)
  ∧ AddressForm (input.units.map UInt16.toUInt8) host.bytes port

-----------------------------------------------------------------------------------------
-- Ports
-----------------------------------------------------------------------------------------

/-- Reading digits evaluates them, by induction on them. -/
theorem digitsValue_eq {digits : List UInt8} (all : ∀ c ∈ digits, CText.isDigit c = true)
    (value : Nat)
    : CText.digitsValue value digits = value * 10 ^ digits.length + decimalValue digits := by
  induction digits generalizing value with
  | nil => simp [CText.digitsValue, decimalValue]
  | cons c rest ih =>
      rw [List.forall_mem_cons] at all
      rw [CText.digitsValue, if_pos all.1, ih all.2, List.length_cons, Nat.pow_succ, decimalValue,
        decimalValue, List.reverse_cons, List.map_append, Nat.ofDigits_append]
      simp
      ring

/-- `strtoul` on digits alone saturates. -/
theorem strtoul_digits {digits : List UInt8} (all : ∀ c ∈ digits, CText.isDigit c = true)
    : CText.strtoul digits = min CText.ulongMax (decimalValue digits) := by
  cases digits with
  | nil => rfl
  | cons c rest =>
      have read := digitsValue_eq all 0
      rw [Nat.zero_mul, Nat.zero_add] at read
      obtain ⟨notBlank, notMinus, notPlus⟩ := CText.isDigit_plain_head (all c List.mem_cons_self)
      rw [CText.strtoul, List.dropWhile_cons_of_neg (by simp [notBlank])]
      simp only [beq_iff_eq, notMinus, notPlus, read, if_false]

/-- A port is decimal, of whatever length, and between 1 and 65535: where `strtoul` saturates the
value is too large as well.
-/
theorem parsePort_eq_some_iff {text : CString} {port : UInt16}
    : parsePort text = some port
      ↔ text.bytes ≠ []
        ∧ (∀ c ∈ text.bytes, CText.isDigit c = true)
        ∧ decimalValue text.bytes = port.toNat
        ∧ 1 ≤ decimalValue text.bytes
        ∧ decimalValue text.bytes ≤ 65535 := by
  have empty : text.isEmpty = true ↔ text.bytes = [] := List.isEmpty_iff
  unfold parsePort
  split
  · rename_i none
    simp [empty.1 none]
  · rename_i filled
    rw [empty] at filled
    split
    · rename_i all
      rw [List.all_eq_true] at all
      dsimp only
      rw [strtoul_digits all]
      have saturated
          : (min CText.ulongMax (decimalValue text.bytes) = 0
              ∨ min CText.ulongMax (decimalValue text.bytes) > 65535)
            ↔ decimalValue text.bytes = 0 ∨ decimalValue text.bytes > 65535 := by
        rw [CText.ulongMax]
        omega
      rw [if_congr saturated rfl rfl]
      split
      · rename_i outside
        refine ⟨fun parsed => absurd parsed.symm (Option.some_ne_none port), fun parsed => ?_⟩
        omega
      · rename_i inside
        have exact : min CText.ulongMax (decimalValue text.bytes) = decimalValue text.bytes := by
          rw [CText.ulongMax]
          omega
        rw [exact, Option.some_inj, ← UInt16.toNat_inj, UInt16.toNat_ofNat',
          Nat.mod_eq_of_lt (by omega)]
        exact ⟨fun same => ⟨filled, all, same, by omega, by omega⟩, fun parsed => parsed.2.2.1⟩
    · rename_i other
      rw [List.all_eq_true] at other
      exact ⟨fun parsed => absurd parsed.symm (Option.some_ne_none port),
        fun parsed => absurd parsed.2.1 other⟩

-----------------------------------------------------------------------------------------
-- Hosts
-----------------------------------------------------------------------------------------

/-- A text with a colon is an address by its first colon. -/
theorem addressForm_split {front rest host : List UInt8} {port : UInt16} (absent : colon ∉ front)
    : AddressForm (front ++ colon :: rest) host port
      ↔ host = front
        ∧ front ≠ []
        ∧ rest ≠ []
        ∧ (∀ c ∈ rest, CText.isDigit c = true)
        ∧ decimalValue rest = port.toNat
        ∧ 1 ≤ decimalValue rest
        ∧ decimalValue rest ≤ 65535 := by
  constructor
  · rintro (⟨same, -, missing, -⟩ | ⟨digits, split, some, missing, number⟩)
    · exact absurd (same ▸ List.mem_append_right front List.mem_cons_self) missing
    · have position := CString.findIdx?_beq_append rest absent
      rw [split, CString.findIdx?_beq_append digits missing, Option.some_inj] at position
      obtain ⟨rfl, tail⟩ := List.append_inj split position.symm
      obtain rfl := (List.cons.inj tail).2
      exact ⟨rfl, some, number⟩
  · rintro ⟨rfl, some, number⟩
    exact .inr ⟨rest, rfl, some, absent, number⟩

/-- What `ParseHostPort` accepts of a string that fits into its buffer. Witness: the string is split
at its first colon, and a second one would make the last colon another one.
-/
theorem parseHostPort_eq_some_iff {input host : CString} {port : UInt16} {hostSize : Nat}
    (filled : input.bytes ≠ []) (fits : input.length < hostSize) (room : 2 ≤ hostSize)
    : parseHostPort input hostSize = some (host, port)
      ↔ AddressForm input.bytes host.bytes port := by
  have start : ¬ (input.isEmpty = true ∨ hostSize < 2) := by
    rintro (empty | small)
    · exact filled (List.isEmpty_iff.1 empty)
    · omega
  rw [parseHostPort, if_neg start]
  by_cases separated : colon ∈ input.bytes
  · obtain ⟨front, rest, split, absent⟩ := List.eq_append_cons_of_mem separated
    rw [split, addressForm_split absent, CString.strchr_of_append split absent]
    by_cases again : colon ∈ rest
    · obtain ⟨last, between, later, only⟩ := List.eq_append_cons_of_mem (List.mem_reverse.2 again)
      have behind
          : input.bytes = (front ++ colon :: between.reverse) ++ colon :: last.reverse := by
        rw [split, ← List.reverse_reverse rest, later]
        simp
      rw [CString.strrchr_of_append behind (by simpa using only)]
      have other : some front.length ≠ some (front ++ colon :: between.reverse).length := by
        rw [Ne, Option.some_inj, List.length_append, List.length_cons]
        omega
      simp only [if_pos other]
      exact ⟨fun parsed => absurd parsed.symm (Option.some_ne_none _),
        fun parsed => absurd (parsed.2.2.2.1 colon again) (by decide)⟩
    · rw [CString.strrchr_of_append split again]
      simp only [ne_eq, not_true, if_false]
      have within : front.length < hostSize := by
        rw [CString.length, split, List.length_append] at fits
        omega
      have tail : (input.drop (front.length + 1)).bytes = rest := by
        rw [CString.bytes_drop, split, List.drop_length_add_append]
        rfl
      have head : (input.take front.length).bytes = front := by
        rw [CString.bytes_take, split, List.take_left]
      split
      · rename_i refused
        obtain empty | large := refused
        · refine ⟨fun parsed => absurd parsed.symm (Option.some_ne_none _), fun parsed => ?_⟩
          exact absurd (List.length_eq_zero_iff.1 empty) parsed.2.1
        · omega
      · rename_i kept
        have some : front ≠ [] := fun none => kept (.inl (List.length_eq_zero_iff.2 none))
        rw [Option.map_eq_some_iff]
        constructor
        · rintro ⟨parsed, valid, same⟩
          obtain ⟨rfl, rfl⟩ := Prod.mk.inj same
          rw [parsePort_eq_some_iff, tail] at valid
          exact ⟨head, some, valid⟩
        · rintro ⟨same, -, valid⟩
          refine ⟨port, parsePort_eq_some_iff.2 (tail.symm ▸ valid), ?_⟩
          rw [CString.ext (head.trans same.symm)]
  · rw [CString.strchr_eq_none.2 separated]
    simp only [if_neg (Nat.not_le.2 fits)]
    constructor
    · intro parsed
      obtain ⟨rfl, rfl⟩ := Prod.mk.inj (Option.some.inj parsed)
      exact .inl ⟨rfl, filled, separated, rfl⟩
    · rintro (⟨same, -, -, rfl⟩ | ⟨digits, split, -⟩)
      · rw [CString.ext same]
        rfl
      · exact absurd (split ▸ List.mem_append_right host.bytes List.mem_cons_self) separated

/-- The loop of `ConvertImeTextToAddress` keeps printable characters that fit, by induction on
them.
-/
theorem convertUnits_eq_some_iff {outputSize length : Nat} {units : List UInt16}
    {output : List UInt8}
    : convertUnits outputSize length units = some output
      ↔ (∀ unit ∈ units, 0x21 ≤ unit ∧ unit ≤ 0x7e)
        ∧ (units = [] ∨ length + units.length < outputSize)
        ∧ units.map UInt16.toUInt8 = output := by
  induction units generalizing length output with
  | nil => simp [convertUnits]
  | cons unit rest ih =>
      have printable : ¬ (unit < 0x21 ∨ unit > 0x7e) ↔ 0x21 ≤ unit ∧ unit ≤ 0x7e := by
        rw [not_or, UInt16.not_lt, GT.gt, UInt16.not_lt]
      rw [convertUnits, List.forall_mem_cons, ← printable]
      split
      · rename_i refused
        simp [refused]
      · rename_i kept
        split
        · rename_i full
          simp only [List.length_cons]
          refine ⟨fun parsed => absurd parsed.symm (Option.some_ne_none _), fun parsed => ?_⟩
          obtain ⟨-, none | fits, -⟩ := parsed
          · exact absurd none (List.cons_ne_nil _ _)
          · omega
        · rename_i fits
          rw [Option.map_eq_some_iff]
          constructor
          · rintro ⟨later, parsed, rfl⟩
            obtain ⟨all, short, rfl⟩ := ih.1 parsed
            refine ⟨⟨kept, all⟩, .inr ?_, rfl⟩
            rw [List.length_cons]
            obtain rfl | short := short
            · simpa using fits
            · omega
          · rintro ⟨⟨-, all⟩, short, rfl⟩
            refine ⟨_, ih.2 ⟨all, .inr ?_, rfl⟩, rfl⟩
            obtain none | short := short
            · exact absurd none (List.cons_ne_nil _ _)
            · rw [List.length_cons] at short
              omega

theorem noNul_of_printable {units : List UInt16} (all : ∀ unit ∈ units, 0x21 ≤ unit ∧ unit ≤ 0x7e)
    : 0 ∉ units.map UInt16.toUInt8 := by
  intro member
  obtain ⟨unit, known, zero⟩ := List.mem_map.1 member
  obtain ⟨low, high⟩ := all unit known
  rw [UInt16.le_iff_toNat_le] at low high
  have narrowed := congrArg UInt8.toNat zero
  rw [UInt16.toNat_toUInt8] at narrowed
  change 33 ≤ unit.toNat at low
  change unit.toNat ≤ 126 at high
  change unit.toNat % 256 = 0 at narrowed
  omega

/-- `ConvertImeTextToAddress` copies what it accepts character by character. -/
theorem convertImeTextToAddress_eq_some_iff {input : WideString} {outputSize : Nat}
    {address : CString} (room : 2 ≤ outputSize)
    : convertImeTextToAddress input outputSize = some address
      ↔ (∀ unit ∈ input.units, 0x21 ≤ unit ∧ unit ≤ 0x7e)
        ∧ 1 ≤ input.units.length
        ∧ input.units.length < outputSize
        ∧ address.bytes = input.units.map UInt16.toUInt8 := by
  rw [convertImeTextToAddress, if_neg (Nat.not_lt.2 room)]
  constructor
  · intro converted
    split at converted
    · exact absurd converted.symm (Option.some_ne_none _)
    · rename_i output parsed
      obtain ⟨all, short, rfl⟩ := convertUnits_eq_some_iff.1 parsed
      rw [List.length_map] at converted
      split at converted
      · rename_i some
        obtain rfl := Option.some.inj converted
        refine ⟨all, some, ?_, CString.bytes_ofBytes (noNul_of_printable all)⟩
        obtain none | short := short
        · simp [none] at some
        · omega
      · exact absurd converted.symm (Option.some_ne_none _)
  · rintro ⟨all, some, short, bytes⟩
    have parsed := convertUnits_eq_some_iff.2 ⟨all, .inr (by omega : 0 + _ < outputSize), rfl⟩
    rw [parsed]
    dsimp only
    rw [if_pos (by rw [List.length_map]; exact some), ← bytes, CString.ofBytes_bytes]

/-- The keyboard's text is accepted exactly when it is an address, with the host and the port that it
names.
-/
theorem read_ime_address_iff {input : WideString} {host : CString} {port : UInt16}
    : readImeAddress input = some (host, port) ↔ ImeAddress input host port := by
  rw [readImeAddress, Option.bind_eq_some_iff]
  constructor
  · rintro ⟨address, converted, parsed⟩
    obtain ⟨all, some, short, bytes⟩ :=
      (convertImeTextToAddress_eq_some_iff (by decide)).1 converted
    have fits : address.length < 256 := by
      rw [CString.length, bytes, List.length_map]
      exact short
    have filled : address.bytes ≠ [] := by
      rw [bytes, ← List.length_pos_iff, List.length_map]
      exact some
    rw [parseHostPort_eq_some_iff filled fits (by decide), bytes] at parsed
    exact ⟨some, Nat.le_of_lt_succ short, all, parsed⟩
  · rintro ⟨some, short, all, form⟩
    have bytes := CString.bytes_ofBytes (noNul_of_printable all)
    have filled : (CString.ofBytes (input.units.map UInt16.toUInt8)).bytes ≠ [] := by
      rw [bytes, ← List.length_pos_iff, List.length_map]
      exact some
    have fits : (CString.ofBytes (input.units.map UInt16.toUInt8)).length < 256 := by
      rw [CString.length, bytes, List.length_map]
      omega
    refine ⟨_, (convertImeTextToAddress_eq_some_iff (by decide)).2
      ⟨all, some, by omega, bytes⟩, ?_⟩
    rw [parseHostPort_eq_some_iff filled fits (by decide), bytes]
    exact form

end VitaMoonlight
