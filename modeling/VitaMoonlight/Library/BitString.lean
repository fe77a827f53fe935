import Mathlib.Data.List.Infix
import Mathlib.Data.Nat.Bitwise
import Mathlib.Tactic.IntervalCases
import Mathlib.Tactic.Ring

/-! Strings of bits with the most significant bit first: numbers of a fixed width, the bytes of a
buffer, the Exp-Golomb code, and a string that is written over another one.
-/

namespace Library

-----------------------------------------------------------------------------------------
-- Numbers
-----------------------------------------------------------------------------------------

/-- The low bits of a number, the most significant one first. -/
def bitsOf : Nat → Nat → List Bool
  | 0, _ => []
  | count + 1, value => value.testBit count :: bitsOf count value

/-- The number that a string of bits spells. -/
def bitsValue : List Bool → Nat
  | [] => 0
  | bit :: bits => bit.toNat <<< bits.length ||| bitsValue bits

@[simp]
theorem length_bitsOf (count value : Nat)
    : (bitsOf count value).length = count := by
  induction count with
  | zero => rfl
  | succ count ih => simp [bitsOf, ih]

theorem bitsValue_bitsOf (count value : Nat)
    : bitsValue (bitsOf count value) = value % 2 ^ count := by
  induction count with
  | zero => simp [bitsOf, bitsValue, Nat.mod_one]
  | succ count ih =>
      have low : value % 2 ^ count < 2 ^ count := Nat.mod_lt _ (Nat.two_pow_pos count)
      rw [bitsOf, bitsValue, length_bitsOf, ih, ← Nat.shiftLeft_add_eq_or_of_lt low,
        Nat.shiftLeft_eq, Nat.mod_pow_succ, Nat.toNat_testBit]
      ring

/-- Bits of zero are cleared. -/
@[simp]
theorem bitsOf_zero_value (count : Nat)
    : bitsOf count 0 = List.replicate count false := by
  induction count with
  | zero => rfl
  | succ count ih => simp [bitsOf, ih, List.replicate_succ]

/-- Only the low bits are spelled. -/
theorem bitsOf_mod (count value : Nat)
    : bitsOf count (value % 2 ^ count) = bitsOf count value := by
  have whole (wide : Nat) (within : count ≤ wide)
      : bitsOf count (value % 2 ^ wide) = bitsOf count value := by
    induction count with
    | zero => rfl
    | succ count ih =>
        rw [bitsOf, bitsOf, ih (by omega), Nat.testBit_mod_two_pow, decide_eq_true (by omega),
          Bool.true_and]
  exact whole count (Nat.le_refl count)

/-- A number is spelled in two parts, by induction on the width of the first. -/
theorem bitsOf_add (high low value : Nat)
    : bitsOf (high + low) value = bitsOf high (value >>> low) ++ bitsOf low value := by
  induction high with
  | zero => simp [bitsOf]
  | succ high ih =>
      rw [Nat.add_right_comm, bitsOf, ih, bitsOf, Nat.testBit_shiftRight, Nat.add_comm low,
        List.cons_append]

-----------------------------------------------------------------------------------------
-- Bytes
-----------------------------------------------------------------------------------------

/-- The bits of a buffer. -/
def bytesBits (bytes : List UInt8) : List Bool :=
  bytes.flatMap fun byte => bitsOf 8 byte.toNat

@[simp]
theorem length_bytesBits (bytes : List UInt8)
    : (bytesBits bytes).length = 8 * bytes.length := by
  simp [bytesBits, List.length_flatMap, Nat.mul_comm]

theorem bytesBits_cons (byte : UInt8) (bytes : List UInt8)
    : bytesBits (byte :: bytes) = bitsOf 8 byte.toNat ++ bytesBits bytes := rfl

theorem bytesBits_append (first second : List UInt8)
    : bytesBits (first ++ second) = bytesBits first ++ bytesBits second :=
  List.flatMap_append

/-- One bit of a buffer sits in its byte. -/
theorem bytesBits_getElem? (bytes : List UInt8) (offset : Nat)
    : (bytesBits bytes)[offset]?
      = bytes[offset / 8]?.map fun byte => byte.toNat.testBit (7 - offset % 8) := by
  induction bytes generalizing offset with
  | nil => simp [bytesBits]
  | cons byte bytes ih =>
      rw [bytesBits_cons]
      by_cases within : offset < 8
      · have quotient : offset / 8 = 0 := Nat.div_eq_of_lt within
        have place : offset % 8 = offset := Nat.mod_eq_of_lt within
        rw [List.getElem?_append_left (by simpa using within), quotient, place]
        interval_cases offset <;> rfl
      · obtain ⟨behind, rfl⟩ : ∃ behind, offset = 8 + behind := ⟨offset - 8, by omega⟩
        rw [List.getElem?_append_right (by simp), length_bitsOf, Nat.add_sub_cancel_left, ih]
        have quotient : (8 + behind) / 8 = behind / 8 + 1 := by omega
        rw [quotient, Nat.add_mod_left]
        rfl

/-- Whole bytes are whole groups of bits, by induction on their number. -/
theorem bytesBits_drop (bytes : List UInt8) (count : Nat)
    : bytesBits (bytes.drop count) = (bytesBits bytes).drop (8 * count) := by
  induction count generalizing bytes with
  | zero => rfl
  | succ count ih =>
      cases bytes with
      | nil => simp [bytesBits]
      | cons byte bytes =>
          have groups : 8 * (count + 1) = (bitsOf 8 byte.toNat).length + 8 * count := by
            rw [length_bitsOf]
            omega
          rw [List.drop_succ_cons, ih, bytesBits_cons, groups, List.drop_length_add_append]

theorem bytesBits_take (bytes : List UInt8) (count : Nat)
    : bytesBits (bytes.take count) = (bytesBits bytes).take (8 * count) := by
  have halves := congrArg bytesBits (List.take_append_drop count bytes)
  rw [bytesBits_append, bytesBits_drop] at halves
  by_cases short : count ≤ bytes.length
  · have front := congrArg (List.take (8 * count)) halves
    rwa [List.take_left' (by rw [length_bytesBits, List.length_take_of_le short])] at front
  · rw [List.take_of_length_le (by omega), List.take_of_length_le (by rw [length_bytesBits]; omega)]

/-- A byte's bits stand at its place. -/
theorem bitsOf_prefix_of_getElem? {bytes : List UInt8} {place : Nat} {byte : UInt8}
    (found : bytes[place]? = some byte)
    : bitsOf 8 byte.toNat <+: (bytesBits bytes).drop (8 * place) := by
  obtain ⟨inside, rfl⟩ := List.getElem?_eq_some_iff.mp found
  rw [← bytesBits_drop, List.drop_eq_getElem_cons inside, bytesBits_cons]
  exact List.prefix_append _ _

-----------------------------------------------------------------------------------------
-- Writing over a string
-----------------------------------------------------------------------------------------

/-- Write bits over a string from a place on; what would come behind its end is lost. -/
def overwrite : List Bool → Nat → List Bool → List Bool
  | bits, _, [] => bits
  | bits, offset, bit :: written => overwrite (bits.set offset bit) (offset + 1) written

@[simp]
theorem length_overwrite (bits : List Bool) (offset : Nat) (written : List Bool)
    : (overwrite bits offset written).length = bits.length := by
  induction written generalizing bits offset with
  | nil => rfl
  | cons bit written ih => rw [overwrite, ih, List.length_set]

theorem overwrite_append (bits : List Bool) (offset : Nat) (first second : List Bool)
    : overwrite bits offset (first ++ second)
      = overwrite (overwrite bits offset first) (offset + first.length) second := by
  induction first generalizing bits offset with
  | nil => rfl
  | cons bit first ih =>
      rw [List.cons_append, overwrite, ih, overwrite, List.length_cons, Nat.add_assoc,
        Nat.add_comm 1]

/-- What is in front of the place stays, and what was written stands at the place. -/
theorem overwrite_eq {bits written : List Bool} {offset : Nat}
    (room : offset + written.length ≤ bits.length)
    : overwrite bits offset written
      = bits.take offset ++ written ++ bits.drop (offset + written.length) := by
  induction written generalizing bits offset with
  | nil => simp [overwrite]
  | cons bit written ih =>
      rw [List.length_cons] at room ⊢
      have here : offset < bits.length := by omega
      rw [overwrite, ih (by rw [List.length_set]; omega), List.take_add_one,
        List.take_set_of_le (Nat.le_refl offset), List.getElem?_set_self here,
        List.drop_set_of_lt (by omega)]
      simp [Nat.add_comm 1, Nat.add_assoc]

/-- Storing a byte writes its bits at its place. -/
theorem bytesBits_set {bytes : List UInt8} {place : Nat} (inside : place < bytes.length)
    (byte : UInt8)
    : bytesBits (bytes.set place byte)
      = overwrite (bytesBits bytes) (8 * place) (bitsOf 8 byte.toNat) := by
  have room : 8 * place + (bitsOf 8 byte.toNat).length ≤ (bytesBits bytes).length := by
    rw [length_bitsOf, length_bytesBits]
    omega
  have next : 8 * place + (bitsOf 8 byte.toNat).length = 8 * (place + 1) := by
    rw [length_bitsOf]
    omega
  rw [overwrite_eq room, next, List.set_eq_take_append_cons_drop, if_pos inside, bytesBits_append,
    bytesBits_cons, bytesBits_take, bytesBits_drop, List.append_assoc]

-----------------------------------------------------------------------------------------
-- The Exp-Golomb code
-----------------------------------------------------------------------------------------

/-- The Exp-Golomb code word of a number: as many zeros as its successor has bits behind the
leading one, and the bits of the successor.
-/
def expGolomb (value : Nat) : List Bool :=
  List.replicate (Nat.log2 (value + 1)) false
    ++ true :: bitsOf (Nat.log2 (value + 1)) (value + 1)

theorem length_expGolomb (value : Nat)
    : (expGolomb value).length = 2 * Nat.log2 (value + 1) + 1 := by
  simp [expGolomb]
  omega

/-- A code word is its successor, written with leading zeros. -/
theorem expGolomb_eq_bitsOf (value : Nat)
    : expGolomb value = bitsOf (2 * Nat.log2 (value + 1) + 1) (value + 1) := by
  have positive : value + 1 ≠ 0 := Nat.succ_ne_zero value
  have below := Nat.lt_log2_self (n := value + 1)
  have leading : (value + 1).testBit (Nat.log2 (value + 1)) = true :=
    Nat.testBit_log2 positive
  have high : (value + 1) >>> (Nat.log2 (value + 1) + 1) = 0 := by
    rw [Nat.shiftRight_eq_div_pow]
    exact Nat.div_eq_of_lt below
  have split : 2 * Nat.log2 (value + 1) + 1
      = Nat.log2 (value + 1) + (Nat.log2 (value + 1) + 1) := by omega
  rw [split, bitsOf_add, high, bitsOf_zero_value, bitsOf, leading]
  rfl

end Library
