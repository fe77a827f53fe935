import Mathlib.Data.List.Infix

/-! The byte stuffing of the vendored H.264 library (`third_party/h264bitstream/h264_nal.c`): a
NAL unit has a 03 wherever its payload has two zero bytes and a byte below 04 behind them.
-/

namespace VitaMoonlight.H264

-----------------------------------------------------------------------------------------
-- Stuffing
-----------------------------------------------------------------------------------------

/-- The zero bytes in a row behind a byte. -/
def zerosAfter (count : Nat) (byte : UInt8) : Nat := if byte = 0 then count + 1 else 0

/-- `rbsp_to_nal` with the room that is left and the zero bytes in a row: the bytes that it has
stored, also where it fails, and whether it has got to the end. The check for room is made once
for each byte of the payload, so that a stuffed pair may go one byte past the room.
-/
def rbspToNal : Nat → Nat → List UInt8 → List UInt8 × Bool
  | _, _, [] => ([], true)
  | room, count, byte :: rest =>
      if room = 0 then ([], false)
      else if count = 2 ∧ byte &&& 0xFC = 0 then
        let (stored, finished) := rbspToNal (room - 2) (zerosAfter 0 byte) rest
        (0x03 :: byte :: stored, finished)
      else
        let (stored, finished) := rbspToNal (room - 1) (zerosAfter count byte) rest
        (byte :: stored, finished)

/-- `nal_to_rbsp` with the room that is left and the zero bytes in a row: the payload and the
number of bytes that were used. A 03 at the very end is dropped and not counted.
-/
def nalToRbsp : Nat → Nat → List UInt8 → Option (List UInt8 × Nat)
  | _, _, [] => some ([], 0)
  | room, count, byte :: rest =>
      if count = 2 ∧ byte < 0x03 then none
      else if count = 2 ∧ byte = 0x03 then
        match rest with
        | [] => some ([], 0)
        | next :: rest =>
            if 0x03 < next then none
            else if room = 0 then none
            else do
              let (payload, used) ← nalToRbsp (room - 1) (zerosAfter 0 next) rest
              some (next :: payload, used + 2)
      else if room = 0 then none
      else do
        let (payload, used) ← nalToRbsp (room - 1) (zerosAfter count byte) rest
        some (byte :: payload, used + 1)

theorem zerosAfter_zero_le (byte : UInt8)
    : zerosAfter 0 byte ≤ 1 := by
  rw [zerosAfter]
  split <;> omega

/-- The mask of the source picks the bytes up to 03. -/
theorem masked_iff (byte : UInt8)
    : byte &&& 0xFC = 0 ↔ byte ≤ 0x03 := by
  have all : ∀ byte : Fin 256, (UInt8.ofNat byte.val &&& 0xFC = 0 ↔ UInt8.ofNat byte.val ≤ 0x03) := by
    decide +kernel
  simpa using all ⟨byte.toNat, byte.toNat_lt⟩

theorem rbspToNal_full (count : Nat) (rbsp : List UInt8)
    : rbspToNal 0 count rbsp = ([], rbsp.isEmpty) := by
  cases rbsp <;> simp [rbspToNal]

theorem rbspToNal_stuffed {room count : Nat} {byte : UInt8} (rest : List UInt8)
    (space : room ≠ 0) (stuffed : count = 2 ∧ byte ≤ 0x03)
    : rbspToNal room count (byte :: rest)
      = (0x03 :: byte :: (rbspToNal (room - 2) (zerosAfter 0 byte) rest).1,
          (rbspToNal (room - 2) (zerosAfter 0 byte) rest).2) := by
  rw [rbspToNal, if_neg space, if_pos ⟨stuffed.1, (masked_iff byte).mpr stuffed.2⟩]

theorem rbspToNal_plain {room count : Nat} {byte : UInt8} (rest : List UInt8)
    (space : room ≠ 0) (plain : ¬(count = 2 ∧ byte ≤ 0x03))
    : rbspToNal room count (byte :: rest)
      = (byte :: (rbspToNal (room - 1) (zerosAfter count byte) rest).1,
          (rbspToNal (room - 1) (zerosAfter count byte) rest).2) := by
  rw [rbspToNal, if_neg space,
    if_neg fun masked => plain ⟨masked.1, (masked_iff byte).mp masked.2⟩]

/-- A plain byte leaves at most two zeros in a row behind it. -/
theorem zerosAfter_le {count : Nat} {byte : UInt8} (atMost : count ≤ 2)
    (plain : ¬(count = 2 ∧ byte ≤ 0x03))
    : zerosAfter count byte ≤ 2 := by
  rw [zerosAfter]
  split
  case isTrue zero =>
    have fewer : count ≠ 2 := fun two => plain ⟨two, zero ▸ by decide⟩
    omega
  case isFalse => omega

-----------------------------------------------------------------------------------------
-- Sizes
-----------------------------------------------------------------------------------------

/-- Nothing is stored without room, and otherwise at most one byte behind it, by induction on
the payload.
-/
theorem length_rbspToNal_le (room count : Nat) (rbsp : List UInt8)
    : (rbspToNal room count rbsp).1.length ≤ if room = 0 then 0 else room + 1 := by
  induction rbsp generalizing room count with
  | nil => simp [rbspToNal]
  | cons byte rest ih =>
      by_cases space : room = 0
      · rw [if_pos space, space, rbspToNal_full]
        rfl
      · rw [if_neg space]
        by_cases stuffed : count = 2 ∧ byte ≤ 0x03
        · have fewer := ih (room - 2) (zerosAfter 0 byte)
          rw [rbspToNal_stuffed rest space stuffed, List.length_cons, List.length_cons]
          split at fewer <;> omega
        · have fewer := ih (room - 1) (zerosAfter count byte)
          rw [rbspToNal_plain rest space stuffed, List.length_cons]
          split at fewer <;> omega

/-- There is at most one stuffed byte for two bytes of the payload; the zeros in a row count as
the half that a stuffed byte still needs.
-/
theorem two_mul_length_rbspToNal_le {room count : Nat} {rbsp : List UInt8} (atMost : count ≤ 2)
    : 2 * (rbspToNal room count rbsp).1.length ≤ 3 * rbsp.length + count := by
  induction rbsp generalizing room count with
  | nil => simp [rbspToNal]
  | cons byte rest ih =>
      by_cases space : room = 0
      · rw [space, rbspToNal_full]
        simp
      · by_cases stuffed : count = 2 ∧ byte ≤ 0x03
        · have one := zerosAfter_zero_le byte
          have fewer := @ih (room - 2) _ (Nat.le_trans one (by decide))
          rw [rbspToNal_stuffed rest space stuffed]
          simp only [List.length_cons]
          omega
        · have fewer := @ih (room - 1) _ (zerosAfter_le atMost stuffed)
          have more : zerosAfter count byte ≤ count + 1 := by
            rw [zerosAfter]
            split <;> omega
          rw [rbspToNal_plain rest space stuffed]
          simp only [List.length_cons]
          omega

/-- A payload that was stuffed to its end has not lost a byte. -/
theorem length_le_rbspToNal {room count : Nat} {rbsp : List UInt8}
    (finished : (rbspToNal room count rbsp).2 = true)
    : rbsp.length ≤ (rbspToNal room count rbsp).1.length := by
  induction rbsp generalizing room count with
  | nil => exact Nat.zero_le _
  | cons byte rest ih =>
      by_cases space : room = 0
      · rw [space, rbspToNal_full] at finished
        cases finished
      · by_cases stuffed : count = 2 ∧ byte ≤ 0x03
        · rw [rbspToNal_stuffed rest space stuffed] at finished ⊢
          have more := ih finished
          simp only [List.length_cons]
          omega
        · rw [rbspToNal_plain rest space stuffed] at finished ⊢
          have more := ih finished
          simp only [List.length_cons]
          omega

/-- Room for three bytes to two bytes of the payload is enough. -/
theorem rbspToNal_finished {room count : Nat} {rbsp : List UInt8} (atMost : count ≤ 2)
    (enough : 3 * rbsp.length + count ≤ 2 * room)
    : (rbspToNal room count rbsp).2 = true := by
  induction rbsp generalizing room count with
  | nil => rfl
  | cons byte rest ih =>
      rw [List.length_cons] at enough
      have space : room ≠ 0 := by omega
      by_cases stuffed : count = 2 ∧ byte ≤ 0x03
      · have one := zerosAfter_zero_le byte
        rw [rbspToNal_stuffed rest space stuffed]
        exact ih (Nat.le_trans one (by decide)) (by omega)
      · have more : zerosAfter count byte ≤ count + 1 := by
          rw [zerosAfter]
          split <;> omega
        rw [rbspToNal_plain rest space stuffed]
        exact ih (zerosAfter_le atMost stuffed) (by omega)

-----------------------------------------------------------------------------------------
-- Reading back
-----------------------------------------------------------------------------------------

theorem nalToRbsp_plain {room count : Nat} {byte : UInt8} {rest : List UInt8} (space : room ≠ 0)
    (plain : ¬(count = 2 ∧ byte ≤ 0x03))
    : nalToRbsp room count (byte :: rest)
      = (nalToRbsp (room - 1) (zerosAfter count byte) rest).map fun result =>
          (byte :: result.1, result.2 + 1) := by
  have low : ¬(count = 2 ∧ byte < 0x03) := fun low => plain ⟨low.1, UInt8.le_of_lt low.2⟩
  have equal : ¬(count = 2 ∧ byte = 0x03) := fun equal => plain ⟨equal.1, equal.2 ▸ UInt8.le_refl _⟩
  rw [nalToRbsp.eq_def]
  simp only [if_neg low, if_neg equal, if_neg space]
  cases nalToRbsp (room - 1) (zerosAfter count byte) rest <;> rfl

theorem nalToRbsp_stuffed {room : Nat} {byte : UInt8} {rest : List UInt8} (space : room ≠ 0)
    (low : byte ≤ 0x03)
    : nalToRbsp room 2 (0x03 :: byte :: rest)
      = (nalToRbsp (room - 1) (zerosAfter 0 byte) rest).map fun result =>
          (byte :: result.1, result.2 + 2) := by
  rw [nalToRbsp, if_neg (by decide), if_pos ⟨rfl, rfl⟩]
  simp only [UInt8.not_lt.mpr low, if_false, if_neg space]
  cases nalToRbsp (room - 1) (zerosAfter 0 byte) rest <;> rfl

/-- What was stuffed to its end is read back, by induction on the payload. -/
theorem nalToRbsp_of_rbspToNal {room count : Nat} {rbsp : List UInt8} (atMost : count ≤ 2)
    (finished : (rbspToNal room count rbsp).2 = true) {space : Nat} (fits : rbsp.length ≤ space)
    : nalToRbsp space count (rbspToNal room count rbsp).1
      = some (rbsp, (rbspToNal room count rbsp).1.length) := by
  induction rbsp generalizing room count space with
  | nil => rfl
  | cons byte rest ih =>
      rw [List.length_cons] at fits
      have some : space ≠ 0 := by omega
      by_cases full : room = 0
      · rw [full, rbspToNal_full] at finished
        cases finished
      · by_cases stuffed : count = 2 ∧ byte ≤ 0x03
        · obtain ⟨rfl, low⟩ := stuffed
          rw [rbspToNal_stuffed rest full ⟨rfl, low⟩] at finished ⊢
          rw [nalToRbsp_stuffed some low,
            ih (Nat.le_trans (zerosAfter_zero_le byte) (by decide)) finished (by omega)]
          rfl
        · rw [rbspToNal_plain rest full stuffed] at finished ⊢
          rw [nalToRbsp_plain some stuffed, ih (zerosAfter_le atMost stuffed) finished (by omega)]
          rfl

/-- What is accepted is what stuffing makes of its payload, but for a 03 that is dropped at the
end, by induction on the reading.
-/
theorem rbspToNal_of_nalToRbsp {room space count used : Nat} {nal rbsp : List UInt8}
    (atMost : count ≤ 2) (accepted : nalToRbsp space count nal = some (rbsp, used))
    (enough : 3 * rbsp.length + count ≤ 2 * room)
    : rbspToNal room count rbsp = (nal.take used, true)
      ∧ (used = nal.length ∨ nal.drop used = [0x03]) := by
  fun_induction nalToRbsp space count nal generalizing room rbsp used with
  | case1 =>
      cases accepted
      exact ⟨rfl, .inl rfl⟩
  | case2 | case4 | case5 | case7 => cases accepted
  | case3 space count byte _ last =>
      cases accepted
      obtain ⟨-, rfl⟩ := last
      exact ⟨rfl, .inr rfl⟩
  | case6 space count byte _ stuffing next rest low _ ih =>
      obtain ⟨rfl, rfl⟩ := stuffing
      obtain ⟨⟨payload, behind⟩, read, result⟩ := Option.bind_eq_some_iff.mp accepted
      cases result
      have one := zerosAfter_zero_le next
      rw [List.length_cons] at enough
      obtain ⟨same, ended⟩ := @ih (room - 2) _ _ (Nat.le_trans one (by decide)) read (by omega)
      rw [rbspToNal_stuffed payload (by omega) ⟨rfl, UInt8.not_lt.mp low⟩, same]
      exact ⟨rfl, ended.imp (congrArg (· + 2)) id⟩
  | case8 space count byte rest low stuffing _ ih =>
      obtain ⟨⟨payload, behind⟩, read, result⟩ := Option.bind_eq_some_iff.mp accepted
      cases result
      have plain : ¬(count = 2 ∧ byte ≤ 0x03) := by
        rintro ⟨two, small⟩
        rcases UInt8.lt_or_eq_of_le small with less | equal
        · exact low ⟨two, less⟩
        · exact stuffing ⟨two, equal⟩
      have more : zerosAfter count byte ≤ count + 1 := by
        rw [zerosAfter]
        split <;> omega
      rw [List.length_cons] at enough
      obtain ⟨same, ended⟩ := @ih (room - 1) _ _ (zerosAfter_le atMost plain) read (by omega)
      rw [rbspToNal_plain payload (by omega) plain, same]
      exact ⟨rfl, ended.imp (congrArg (· + 1)) id⟩

/-- Unstuffing makes nothing longer, by induction on the reading. -/
theorem length_le_of_nalToRbsp {space count used : Nat} {nal rbsp : List UInt8}
    (accepted : nalToRbsp space count nal = some (rbsp, used))
    : rbsp.length ≤ nal.length := by
  fun_induction nalToRbsp space count nal generalizing rbsp used with
  | case1 | case3 =>
      cases accepted
      exact Nat.zero_le _
  | case2 | case4 | case5 | case7 => cases accepted
  | case6 | case8 =>
      rename_i ih
      obtain ⟨⟨payload, behind⟩, read, result⟩ := Option.bind_eq_some_iff.mp accepted
      cases result
      have shorter := ih read
      simp only [List.length_cons]
      omega

-----------------------------------------------------------------------------------------
-- Start codes
-----------------------------------------------------------------------------------------

/-- No start code begins in front of a byte that does not complete one. -/
theorem startless_append {count : Nat} {byte last : UInt8} {stored : List UInt8}
    (low : last < 0x03) (atMost : count ≤ 2) (third : count = 2 → ¬byte < 0x03)
    (behind : ¬[0, 0, last] <:+: List.replicate (zerosAfter count byte) 0 ++ stored)
    : ¬[0, 0, last] <:+: List.replicate count 0 ++ byte :: stored := by
  by_cases zero : byte = 0
  · subst zero
    have one : zerosAfter count 0 = count + 1 := if_pos rfl
    rwa [one, List.replicate_succ', List.append_assoc] at behind
  · rw [zerosAfter, if_neg zero, List.replicate_zero, List.nil_append] at behind
    have starts : 0 ≠ byte := fun same => zero same.symm
    match count, atMost, third with
    | 0, _, _ => simp [List.infix_cons_iff, behind, starts]
    | 1, _, _ => simp [List.infix_cons_iff, behind, starts]
    | 2, _, third =>
        have other : last ≠ byte := fun same => third rfl (same ▸ low)
        simp [List.infix_cons_iff, behind, starts, other]

/-- Two zero bytes and a byte below 03 never come out, by induction on the payload; the zeros in a
row stand in front of what is still to come.
-/
theorem rbspToNal_startless {room count : Nat} {rbsp : List UInt8} (atMost : count ≤ 2)
    {last : UInt8} (low : last < 0x03)
    : ¬[0, 0, last] <:+: List.replicate count 0 ++ (rbspToNal room count rbsp).1 := by
  have alone {bytes : List UInt8} (short : bytes.length < 3) : ¬[0, 0, last] <:+: bytes :=
    fun inside => Nat.not_le_of_lt short inside.length_le
  induction rbsp generalizing room count with
  | nil => exact alone (by simp [rbspToNal]; omega)
  | cons byte rest ih =>
      by_cases full : room = 0
      · rw [full, rbspToNal_full]
        exact alone (by simp; omega)
      · by_cases stuffed : count = 2 ∧ byte ≤ 0x03
        · rw [rbspToNal_stuffed rest full stuffed]
          have next := startless_append low (Nat.zero_le 2) (fun two => by cases two)
            (@ih (room - 2) _ (Nat.le_trans (zerosAfter_zero_le byte) (by decide)))
          exact startless_append low atMost (fun _ => by decide) next
        · have third : count = 2 → ¬byte < 0x03 :=
            fun two small => stuffed ⟨two, UInt8.le_of_lt small⟩
          rw [rbspToNal_plain rest full stuffed]
          exact startless_append low atMost third (@ih (room - 1) _ (zerosAfter_le atMost stuffed))

-----------------------------------------------------------------------------------------
-- The format
-----------------------------------------------------------------------------------------

/-- What stuffing a payload into a buffer does. -/
structure Stuffed (room : Nat) (rbsp nal : List UInt8) (finished : Bool) : Prop where
  startless : ∀ last < 0x03, ¬[0, 0, last] <:+: nal
  half : 2 * nal.length ≤ 3 * rbsp.length
  bounded : nal.length ≤ room + 1
  finishes : 3 * rbsp.length ≤ 2 * room → finished = true
  readBack : finished = true → nalToRbsp nal.length 0 nal = some (rbsp, nal.length)

/-- Stuffing hides every start code, never takes more than half as much again, and is undone by
unstuffing, which accepts nothing but stuffed payloads and a 03 behind them.
-/
theorem stuffing_format
    : (∀ room rbsp, Stuffed room rbsp (rbspToNal room 0 rbsp).1 (rbspToNal room 0 rbsp).2)
      ∧ ∀ nal rbsp used,
          nalToRbsp nal.length 0 nal = some (rbsp, used)
          → rbspToNal (2 * rbsp.length) 0 rbsp = (nal.take used, true)
            ∧ (used = nal.length ∨ nal.drop used = [0x03]) := by
  constructor
  · intro room rbsp
    refine ⟨fun last low => ?_, ?_, ?_, fun enough => ?_, fun finished => ?_⟩
    · have startless := @rbspToNal_startless room 0 rbsp (Nat.zero_le 2) last low
      rwa [List.replicate_zero, List.nil_append] at startless
    · exact two_mul_length_rbspToNal_le (Nat.zero_le 2)
    · refine Nat.le_trans (length_rbspToNal_le room 0 rbsp) ?_
      split <;> omega
    · exact rbspToNal_finished (Nat.zero_le 2) enough
    · exact nalToRbsp_of_rbspToNal (Nat.zero_le 2) finished (length_le_rbspToNal finished)
  · intro nal rbsp used accepted
    exact rbspToNal_of_nalToRbsp (Nat.zero_le 2) accepted (by omega)

end VitaMoonlight.H264
