import VitaMoonlight.ThirdParty.BitStream

/-! What coders read, write and consume, on the bits of the stream and at any place of it. The
rules compose along the syntax of a coder, so that the syntax structures above never reason about
bytes.
-/

namespace VitaMoonlight.H264

open Library

variable {Value Other : Type}

-----------------------------------------------------------------------------------------
-- Reading
-----------------------------------------------------------------------------------------

/-- The coder reads these bits, wherever they stand in a stream, as this value. -/
def Reads (reader : Coder Value) (bits : List Bool) (value : Value) : Prop :=
  ∀ bytes offset,
    bits <+: (bytesBits bytes).drop offset →
    reader (seek bytes offset) = some (value, seek bytes (offset + bits.length))

theorem Reads.pure (value : Value)
    : Reads (pure value) [] value :=
  fun _ _ _ => rfl

theorem Reads.bind {reader : Coder Value} {next : Value → Coder Other} {bits rest : List Bool}
    {value : Value} {other : Other} (first : Reads reader bits value)
    (second : Reads (next value) rest other)
    : Reads (reader >>= next) (bits ++ rest) other := by
  intro bytes offset here
  obtain ⟨behind, spelled⟩ := here
  have front : bits <+: (bytesBits bytes).drop offset :=
    ⟨rest ++ behind, by rw [← spelled, List.append_assoc]⟩
  have after : rest <+: (bytesBits bytes).drop (offset + bits.length) := by
    rw [← List.drop_drop, ← spelled, List.append_assoc, List.drop_left]
    exact List.prefix_append _ _
  have run : (reader >>= next) (seek bytes offset)
      = next value (seek bytes (offset + bits.length)) := by
    rw [bind_apply, first bytes offset front, Option.bind_some]
  rw [run, second bytes _ after, List.length_append, Nat.add_assoc]

theorem Reads.map {reader : Coder Value} {bits : List Bool} {value : Value}
    (reads : Reads reader bits value) (f : Value → Other)
    : Reads (do let v ← reader; Pure.pure (f v)) bits (f value) := by
  have both
      : Reads (reader >>= fun v => Pure.pure (f v)) (bits ++ []) (f value) :=
    reads.bind (Reads.pure (f value))
  rwa [List.append_nil] at both

/-- The bit at the place is the next one. -/
theorem getD_of_prefix {bit : Bool} {bits whole : List Bool} {offset : Nat}
    (here : bit :: bits <+: whole.drop offset)
    : whole.getD offset false = bit := by
  obtain ⟨behind, spelled⟩ := here
  have first : whole[offset]? = some bit := by
    rw [← List.head?_drop, ← spelled]
    rfl
  rw [List.getD_eq_getElem?_getD, first, Option.getD_some]

theorem reads_u1 (bit : Bool)
    : Reads readU1 [bit] bit := by
  intro bytes offset here
  rw [readU1_seek, getD_of_prefix here]
  rfl

/-- The loop adds the number that the bits spell, by induction on the bits. -/
theorem reads_bits (bits : List Bool) (r : Nat)
    : Reads (readBits bits.length r) bits (r ||| bitsValue bits) := by
  induction bits generalizing r with
  | nil =>
      rw [bitsValue, Nat.or_zero]
      exact Reads.pure r
  | cons bit bits ih =>
      have rest := ih (r ||| bit.toNat <<< bits.length)
      rw [Nat.or_assoc] at rest
      exact (reads_u1 bit).bind rest

theorem reads_u {n : Nat} (v : BitVec n)
    : Reads (readU n) (bitsOf n v.toNat) v := by
  have loop := reads_bits (bitsOf n v.toNat) 0
  rw [length_bitsOf, Nat.zero_or, bitsValue_bitsOf, Nat.mod_eq_of_lt v.isLt] at loop
  have whole := loop.map (BitVec.ofNat n)
  rwa [BitVec.ofNat_toNat, BitVec.setWidth_eq] at whole

/-- The fast path of `bs_read_u8` reads what the plain one does. -/
theorem readU8_seek (bytes : List UInt8) (offset : Nat)
    : readU8 (seek bytes offset) = readU 8 (seek bytes offset) := by
  cases found : bytes[offset / 8]? with
  | none => simp only [readU8, seek, found]
  | some byte =>
      by_cases aligned : offset % 8 = 0
      · obtain ⟨place, rfl⟩ : ∃ place, offset = 8 * place := ⟨offset / 8, by omega⟩
        have quotient : 8 * place / 8 = place := Nat.mul_div_cancel_left place (by decide)
        rw [quotient] at found
        rw [reads_u byte.toBitVec bytes (8 * place) (bitsOf_prefix_of_getElem? found), length_bitsOf]
        have next : (8 * place + 8) / 8 = place + 1 := by omega
        have start : (8 * place + 8) % 8 = 0 := by omega
        simp [readU8, seek, quotient, found, BitStream.byteAligned, next, start]
      · have inside : ((seek bytes offset).byteAligned) = false := by
          simp only [BitStream.byteAligned, seek, beq_eq_false_iff_ne]
          omega
        have place : (seek bytes offset).bytes[(seek bytes offset).p]? = some byte := found
        rw [readU8, place]
        simp only [inside, Bool.false_eq_true, if_false]

theorem reads_u8 (v : BitVec 8)
    : Reads readU8 (bitsOf 8 v.toNat) v := by
  intro bytes offset here
  rw [readU8_seek]
  exact reads_u v bytes offset here

/-- One turn of the loop that counts zeros. -/
theorem countZeros_seek (room i : Nat) (bytes : List UInt8) (offset : Nat)
    : countZeros (room + 1) i (seek bytes offset)
      = if (bytesBits bytes).getD offset false || (seek bytes (offset + 1)).eof then
          some (i, seek bytes (offset + 1))
        else countZeros room (i + 1) (seek bytes (offset + 1)) := by
  rw [countZeros, bind_apply, readU1_seek, Option.bind_some, bind_apply]
  change (if _ then _ else _ : Coder Nat) _ = _
  split <;> rfl

/-- A stream has not ended in front of one of its bits. -/
theorem eof_seek (bytes : List UInt8) (offset : Nat)
    : (seek bytes offset).eof = decide ((bytesBits bytes).length ≤ offset) := by
  rw [length_bytesBits, BitStream.eof, decide_eq_decide]
  simp only [seek]
  omega

/-- Zeros are counted up to the one that ends them, by induction on their number. -/
theorem reads_zeros {zeros room : Nat} (fits : zeros ≤ room) (i : Nat)
    : Reads (countZeros room i) (List.replicate zeros false ++ [true]) (i + zeros) := by
  induction zeros generalizing room i with
  | zero =>
      cases room with
      | zero => exact (reads_u1 true).map fun _ => i
      | succ room =>
          intro bytes offset here
          rw [countZeros_seek, getD_of_prefix here, Bool.true_or, if_pos rfl]
          rfl
  | succ zeros ih =>
      obtain ⟨room, rfl⟩ : ∃ smaller, room = smaller + 1 := ⟨room - 1, by omega⟩
      intro bytes offset here
      rw [List.replicate_succ, List.cons_append] at here
      obtain ⟨behind, spelled⟩ := here
      have rest : List.replicate zeros false ++ [true] <+: (bytesBits bytes).drop (offset + 1) := by
        rw [← List.drop_drop, ← spelled]
        exact List.prefix_append _ _
      have more : (seek bytes (offset + 1)).eof = false := by
        rw [eof_seek, decide_eq_false_iff_not]
        intro ended
        rw [List.drop_eq_nil_of_le ended] at rest
        simp at rest
      rw [countZeros_seek, getD_of_prefix ⟨behind, spelled⟩, more, Bool.or_false, if_neg (by simp),
        ih (by omega) (i + 1) bytes (offset + 1) rest]
      simp only [List.length_append, List.length_replicate, List.length_singleton]
      congr 2
      · omega
      · congr 1
        omega

/-- The zeros in front of a code word. -/
theorem log2_ue (v : Ue)
    : Nat.log2 (v.val + 1) ≤ 30 := by
  have small : v.val + 1 < 2 ^ 31 := by
    have := v.isLt
    omega
  exact Nat.lt_succ_iff.mp ((Nat.log2_lt (Nat.succ_ne_zero _)).mpr small)

/-- The number behind the zeros of a code word completes its value. -/
theorem codeValue_expGolomb (v : Ue)
    : codeValue (log2_ue v) (BitVec.ofNat (Nat.log2 (v.val + 1)) (v.val + 1)) = v := by
  have low := Nat.log2_self_le (Nat.succ_ne_zero v.val)
  have high := Nat.lt_log2_self (n := v.val + 1)
  rw [Nat.pow_succ] at high
  apply Fin.ext
  rw [Nat.succ_eq_add_one] at low
  have part : (v.val + 1) % 2 ^ Nat.log2 (v.val + 1) = v.val + 1 - 2 ^ Nat.log2 (v.val + 1) := by
    rw [Nat.mod_eq_sub_mod low, Nat.mod_eq_of_lt (by omega)]
  have positive := Nat.two_pow_pos (Nat.log2 (v.val + 1))
  simp only [codeValue, BitVec.toNat_ofNat, part]
  omega

theorem reads_ue (v : Ue)
    : Reads readUe (expGolomb v.val) v := by
  have zeros := reads_zeros (Nat.le_trans (log2_ue v) (by decide : 30 ≤ 32)) 0
  rw [Nat.zero_add] at zeros
  have number := reads_u (BitVec.ofNat (Nat.log2 (v.val + 1)) (v.val + 1))
  rw [BitVec.toNat_ofNat, bitsOf_mod] at number
  have value := number.map (codeValue (log2_ue v))
  rw [codeValue_expGolomb] at value
  have word : expGolomb v.val
      = List.replicate (Nat.log2 (v.val + 1)) false ++ [true]
        ++ bitsOf (Nat.log2 (v.val + 1)) (v.val + 1) := by
    rw [expGolomb, List.append_assoc, List.singleton_append]
  rw [word]
  refine zeros.bind ?_
  rw [dif_pos (log2_ue v)]
  exact value

/-- The signed numbers are numbered from zero on, the positive one of a pair first. -/
theorem toSe_ofSe (v : Se)
    : toSe (ofSe v) = v := by
  obtain ⟨val, small⟩ := v
  by_cases nonpositive : val ≤ 0
  · simp only [ofSe, dif_pos nonpositive, toSe]
    rw [if_neg (by omega), Se.mk.injEq]
    omega
  · simp only [ofSe, dif_neg nonpositive, toSe]
    rw [if_pos (by omega), Se.mk.injEq]
    omega

theorem reads_se (v : Se)
    : Reads readSe (expGolomb (ofSe v).val) v := by
  have value := (reads_ue (ofSe v)).map toSe
  rwa [toSe_ofSe] at value

-----------------------------------------------------------------------------------------
-- Writing
-----------------------------------------------------------------------------------------

/-- Where the coder is defined, it writes these bits over the stream and leaves it behind them. -/
def Writes (writer : Coder Unit) (bits : List Bool) : Prop :=
  ∀ bytes offset b,
    writer (seek bytes offset) = some ((), b) →
    ∃ after,
      b = seek after (offset + bits.length)
      ∧ bytesBits after = overwrite (bytesBits bytes) offset bits

theorem Writes.pure
    : Writes (pure ()) [] := by
  intro bytes offset b run
  cases run
  exact ⟨bytes, rfl, rfl⟩

theorem Writes.seq {writer next : Coder Unit} {bits rest : List Bool}
    (first : Writes writer bits) (second : Writes next rest)
    : Writes (do writer; next) (bits ++ rest) := by
  intro bytes offset b run
  obtain ⟨⟨⟩, between, front, behind⟩ := bind_eq_some.mp run
  obtain ⟨middle, rfl, written⟩ := first bytes offset between front
  obtain ⟨after, rfl, overwritten⟩ := second middle _ b behind
  refine ⟨after, ?_, ?_⟩
  · rw [List.length_append, Nat.add_assoc]
  · rw [overwritten, written, overwrite_append]

/-- Bits behind a flag are written only where it is set. -/
theorem Writes.ite {flag : Bool} {writer : Coder Unit} {bits : List Bool}
    (writes : Writes writer bits)
    : Writes (if flag then writer else Pure.pure ()) (if flag then bits else []) := by
  cases flag with
  | false => exact Writes.pure
  | true => exact writes

theorem writes_undefined (bits : List Bool)
    : Writes undefined bits := by
  intro bytes offset b run
  cases run

theorem testBit_putBit (v : Bool) (byte : UInt8) {place i : Nat} (within : place < 8) (low : i < 8)
    : (putBit v place byte).toNat.testBit i
      = if i = place then v else byte.toNat.testBit i := by
  have asVector (byte : UInt8) : byte.toNat.testBit i = byte.toBitVec.getLsbD i := rfl
  have shift : (place.toUInt8.toBitVec % 8).toNat = place := by
    change place % 256 % 8 = place
    omega
  have bit (v : Bool) (k : Nat) : v.toUInt8.toBitVec.getLsbD k = (decide (k = 0) && v) := by
    cases v
    · simp [Bool.toUInt8]
    · simp [Bool.toUInt8, BitVec.getLsbD_one]
  have one (k : Nat) : (UInt8.toBitVec 1).getLsbD k = decide (k = 0) := by
    simp [BitVec.getLsbD_one]
  rw [asVector, asVector]
  simp only [putBit, UInt8.toBitVec_or, UInt8.toBitVec_and, UInt8.toBitVec_not,
    UInt8.toBitVec_shiftLeft, BitVec.getLsbD_or, BitVec.getLsbD_and, BitVec.getLsbD_not,
    BitVec.shiftLeft_eq', BitVec.getLsbD_shiftLeft, low, decide_true, Bool.true_and, shift, bit, one]
  rcases Nat.lt_trichotomy i place with before | rfl | behind
  · simp [before, Nat.ne_of_lt before]
  · simp
  · have apart : i - place ≠ 0 := by omega
    simp [apart, Nat.ne_of_gt behind]

/-- Putting a bit into its byte sets the bit of the buffer. -/
theorem bytesBits_putBit (v : Bool) (bytes : List UInt8) (offset : Nat)
    : bytesBits (bytes.modify (offset / 8) (putBit v (7 - offset % 8)))
      = (bytesBits bytes).set offset v := by
  apply List.ext_getElem?
  intro i
  rw [bytesBits_getElem?, List.getElem?_modify, List.getElem?_set, length_bytesBits,
    bytesBits_getElem?]
  by_cases here : offset = i
  · subst here
    rw [if_pos rfl]
    by_cases inside : offset / 8 < bytes.length
    · rw [List.getElem?_eq_getElem inside, if_pos (by omega)]
      have last : 7 - offset % 8 < 8 := by omega
      simpa using testBit_putBit v bytes[offset / 8] last last
    · rw [List.getElem?_eq_none (by omega), if_neg (by omega)]
      rfl
  · rw [if_neg here]
    cases bytes[i / 8]? with
    | none => rfl
    | some byte =>
        by_cases sameByte : offset / 8 = i / 8
        · have last : 7 - offset % 8 < 8 := by omega
          have other : 7 - i % 8 < 8 := by omega
          have put := testBit_putBit v byte last other
          rw [if_neg (by omega)] at put
          simpa [sameByte] using put
        · simp [sameByte]

theorem writes_u1 (v : Bool)
    : Writes (writeU1 v) [v] := by
  intro bytes offset b run
  have place : 8 - offset % 8 - 1 = 7 - offset % 8 := by omega
  refine ⟨bytes.modify (offset / 8) (putBit v (7 - offset % 8)), ?_, bytesBits_putBit v bytes offset⟩
  rw [writeU1, skipU1_seek, Option.some.injEq, Prod.mk.injEq] at run
  rw [← run.2]
  simp only [seek, place]
  rfl

theorem writes_bits (v count : Nat)
    : Writes (writeBits v count) (bitsOf count v) := by
  induction count with
  | zero => exact Writes.pure
  | succ count ih => exact (writes_u1 (v.testBit count)).seq ih

theorem writes_u (n v : Nat)
    : Writes (writeU n v) (bitsOf n v) := by
  rw [writeU]
  split
  · exact writes_bits v n
  · exact writes_undefined _

theorem writes_u8 (v : BitVec 8)
    : Writes (writeU8 v) (bitsOf 8 v.toNat) := by
  intro bytes offset b run
  rw [writeU8] at run
  split at run
  case isFalse => exact writes_u 8 v.toNat bytes offset b run
  case isTrue fast =>
    rw [Bool.and_eq_true, Bool.not_eq_true', eof_seek, decide_eq_false_iff_not] at fast
    obtain ⟨aligned, inside⟩ := fast
    rw [length_bytesBits] at inside
    obtain ⟨place, rfl⟩ : ∃ place, offset = 8 * place := by
      refine ⟨offset / 8, ?_⟩
      simp only [BitStream.byteAligned, seek, beq_iff_eq] at aligned
      omega
    have quotient : 8 * place / 8 = place := Nat.mul_div_cancel_left place (by decide)
    have next : (8 * place + 8) / 8 = place + 1 := by omega
    rw [Option.some.injEq, Prod.mk.injEq] at run
    refine ⟨bytes.set place (UInt8.ofBitVec v), ?_, bytesBits_set (by omega) (UInt8.ofBitVec v)⟩
    rw [← run.2, length_bitsOf]
    simp [seek, quotient, next]

/-- The table holds the number of bits of each of its indices but the first. -/
theorem lenTable_getD
    : ∀ i < 256, 0 < i → lenTable.getD i 0 = Nat.log2 i + 1 := by
  decide +kernel

/-- The bits of a number behind its low ones. -/
theorem log2_eq_add_log2_shiftRight {v low : Nat} (high : 2 ^ low ≤ v)
    : Nat.log2 v = low + Nat.log2 (v >>> low) := by
  have positive : v ≠ 0 := by
    have := Nat.two_pow_pos low
    omega
  have quotient : 0 < v / 2 ^ low := Nat.div_pos high (Nat.two_pow_pos low)
  rw [Nat.shiftRight_eq_div_pow]
  apply Nat.le_antisymm
  · refine Nat.lt_succ_iff.mp ((Nat.log2_lt positive).mpr ?_)
    have below := Nat.lt_log2_self (n := v / 2 ^ low)
    rw [Nat.div_lt_iff_lt_mul (Nat.two_pow_pos low), ← Nat.pow_add] at below
    rwa [Nat.succ_eq_add_one, Nat.add_assoc, Nat.add_comm low]
  · refine (Nat.le_log2 positive).mpr ?_
    have above := Nat.log2_self_le (Nat.ne_of_gt quotient)
    rw [Nat.le_div_iff_mul_le (Nat.two_pow_pos low), ← Nat.pow_add, Nat.add_comm] at above
    exact above

/-- The table gives the number of bits of every number that it is used for. -/
theorem codeLen_eq {v : Nat} (positive : 0 < v) (small : v < 2 ^ 32)
    : codeLen v = Nat.log2 v + 1 := by
  have part {low : Nat} (high : 2 ^ low ≤ v) (fits : v < 2 ^ (low + 8))
      : low + lenTable.getD (v >>> low) 0 = Nat.log2 v + 1 := by
    have quotient : v >>> low = v / 2 ^ low := Nat.shiftRight_eq_div_pow v low
    have inTable : v >>> low < 256 := by
      rw [quotient, Nat.div_lt_iff_lt_mul (Nat.two_pow_pos low), Nat.mul_comm]
      rwa [Nat.pow_add] at fits
    have nonzero : 0 < v >>> low := quotient ▸ Nat.div_pos high (Nat.two_pow_pos low)
    rw [lenTable_getD _ inTable nonzero, log2_eq_add_log2_shiftRight high, Nat.add_assoc]
  rw [codeLen]
  split
  case isTrue high => exact part high small
  case isFalse below =>
    split
    case isTrue high => exact part high (by omega)
    case isFalse below =>
      split
      case isTrue high => exact part high (by omega)
      case isFalse below => exact lenTable_getD v (by omega) positive

theorem writes_ue (v : Ue)
    : Writes (writeUe v) (expGolomb v.val) := by
  rw [writeUe]
  split
  case isTrue zero =>
    rw [zero]
    exact writes_u1 true
  case isFalse =>
    have small : v.val + 1 < 2 ^ 32 := by
      have := v.isLt
      omega
    have width : 2 * (Nat.log2 (v.val + 1) + 1) - 1 = 2 * Nat.log2 (v.val + 1) + 1 := by omega
    rw [codeLen_eq (Nat.succ_pos _) small, width, expGolomb_eq_bitsOf]
    exact writes_u _ _

theorem writes_se (v : Se)
    : Writes (writeSe v) (expGolomb (ofSe v).val) := writes_ue (ofSe v)

-----------------------------------------------------------------------------------------
-- Consuming
-----------------------------------------------------------------------------------------

/-- Where the reader is defined, its value and the number of bits that it has moved on are
related, also behind the end of the stream. It leaves the bytes alone.
-/
def Consumes (reader : Coder Value) (post : Value → Nat → Prop) : Prop :=
  ∀ bytes offset value b,
    reader (seek bytes offset) = some (value, b) →
    ∃ count, b = seek bytes (offset + count) ∧ post value count

theorem Consumes.pure {value : Value} {post : Value → Nat → Prop} (holds : post value 0)
    : Consumes (pure value) post := by
  intro bytes offset result b run
  cases run
  exact ⟨0, rfl, holds⟩

theorem Consumes.bind {reader : Coder Value} {next : Value → Coder Other}
    {middle : Value → Nat → Prop} {post : Other → Nat → Prop} (first : Consumes reader middle)
    (second : ∀ value count, middle value count →
      Consumes (next value) fun other more => post other (count + more))
    : Consumes (reader >>= next) post := by
  intro bytes offset result b run
  obtain ⟨value, between, front, behind⟩ := bind_eq_some.mp run
  obtain ⟨count, rfl, holds⟩ := first bytes offset value between front
  obtain ⟨more, rfl, holds⟩ := second value count holds bytes _ result b behind
  exact ⟨count + more, by rw [Nat.add_assoc], holds⟩

theorem Consumes.mono {reader : Coder Value} {strong weak : Value → Nat → Prop}
    (consumes : Consumes reader strong) (implies : ∀ value count, strong value count → weak value count)
    : Consumes reader weak := by
  intro bytes offset value b run
  obtain ⟨count, moved, holds⟩ := consumes bytes offset value b run
  exact ⟨count, moved, implies value count holds⟩

theorem consumes_undefined (post : Value → Nat → Prop)
    : Consumes undefined post := by
  intro bytes offset value b run
  cases run

theorem consumes_u1
    : Consumes readU1 fun _ count => count = 1 := by
  intro bytes offset value b run
  rw [readU1_seek, Option.some.injEq, Prod.mk.injEq] at run
  exact ⟨1, run.2.symm, rfl⟩

theorem consumes_skipU1
    : Consumes skipU1 fun _ count => count = 1 := by
  intro bytes offset value b run
  rw [skipU1, skipU1_seek, Option.some.injEq, Prod.mk.injEq] at run
  exact ⟨1, run.2.symm, rfl⟩

theorem consumes_bits (left r : Nat)
    : Consumes (readBits left r) fun _ count => count = left := by
  induction left generalizing r with
  | zero => exact Consumes.pure rfl
  | succ left ih =>
      refine consumes_u1.bind fun bit count one => ?_
      exact (ih _).mono fun value more rest => by omega

theorem consumes_u (n : Nat)
    : Consumes (readU n) fun _ count => count = n :=
  (consumes_bits n 0).bind fun _ _ all => Consumes.pure (by omega)

theorem consumes_skipU (n : Nat)
    : Consumes (skipU n) fun _ count => count = n := by
  induction n with
  | zero => exact Consumes.pure rfl
  | succ n ih =>
      refine consumes_skipU1.bind fun _ count one => ?_
      exact ih.mono fun value more rest => by omega

theorem consumes_u8
    : Consumes readU8 fun _ count => count = 8 := by
  intro bytes offset value b run
  rw [readU8_seek] at run
  exact consumes_u 8 bytes offset value b run

/-- Each zero is one bit and the bit that ends them is another, also where the stream ends them. -/
theorem consumes_zeros (room i : Nat)
    : Consumes (countZeros room i) fun zeros count => i ≤ zeros ∧ count = zeros - i + 1 := by
  induction room generalizing i with
  | zero => exact consumes_u1.bind fun _ count one => Consumes.pure (by omega)
  | succ room ih =>
      intro bytes offset value b run
      rw [countZeros_seek] at run
      split at run
      · rw [Option.some.injEq, Prod.mk.injEq] at run
        exact ⟨1, run.2.symm, by omega⟩
      · obtain ⟨count, moved, rest⟩ := ih (i + 1) bytes (offset + 1) value b run
        exact ⟨1 + count, by rw [moved, Nat.add_assoc], by omega⟩

/-- The zeros in front of a value that was read. -/
theorem log2_codeValue {i : Nat} (small : i ≤ 30) (r : BitVec i)
    : Nat.log2 ((codeValue small r).val + 1) = i := by
  have positive := Nat.two_pow_pos i
  have low := r.isLt
  have value : (codeValue small r).val + 1 = r.toNat + 2 ^ i := by
    simp only [codeValue]
    omega
  rw [value, Nat.log2_eq_iff (by omega), Nat.pow_succ]
  omega

theorem consumes_ue
    : Consumes readUe fun v count => count = (expGolomb v.val).length := by
  refine (consumes_zeros 32 0).bind fun i zeros counted => ?_
  by_cases small : i ≤ 30
  · simp only [small, dif_pos]
    refine (consumes_u i).bind fun r bits number => Consumes.pure ?_
    rw [length_expGolomb, log2_codeValue]
    omega
  · simp only [small, dif_neg, not_false_eq_true]
    exact consumes_undefined _

theorem ofSe_toSe (r : Ue)
    : ofSe (toSe r) = r := by
  apply Fin.ext
  by_cases odd : r.val % 2 = 1
  · simp only [toSe, if_pos odd, ofSe]
    rw [dif_neg (by omega)]
    simp only
    omega
  · simp only [toSe, if_neg odd, ofSe]
    rw [dif_pos (by omega)]
    simp only
    omega

theorem consumes_se
    : Consumes readSe fun v count => count = (expGolomb (ofSe v).val).length := by
  refine consumes_ue.bind fun r bits counted => Consumes.pure ?_
  rw [ofSe_toSe]
  omega

end VitaMoonlight.H264
