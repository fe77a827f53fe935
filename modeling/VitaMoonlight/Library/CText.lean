import VitaMoonlight.Library.CString
import Mathlib.Data.Nat.Digits.Lemmas
import Mathlib.Tactic.IntervalCases

/-! The parts of `ctype.h`, `stdlib.h` and `printf` that read and write plain text.
-/

namespace Library.CText

/-- `isspace` in the C locale. -/
def isSpace (c : UInt8) : Bool := c == 32 || (9 ≤ c && c ≤ 13)

/-- `isdigit`. -/
def isDigit (c : UInt8) : Bool := 48 ≤ c && c ≤ 57

def newline : UInt8 := 10

def semicolon : UInt8 := 59

@[simp] theorem isSpace_newline : isSpace newline = true := rfl

@[simp] theorem isSpace_semicolon : isSpace semicolon = false := rfl

theorem isDigit_plain_head {c : UInt8} (digit : isDigit c = true)
    : isSpace c = false ∧ c ≠ 45 ∧ c ≠ 43 := by
  simp only [isDigit, Bool.and_eq_true, decide_eq_true_eq, UInt8.le_iff_toNat_le] at digit
  have lower : 48 ≤ c.toNat := digit.1
  have other : ∀ n : UInt8, n.toNat < 48 → c ≠ n := by
    rintro n small rfl
    omega
  refine ⟨?_, other 45 (by decide), other 43 (by decide)⟩
  have late : ¬ c ≤ 13 := by
    rw [UInt8.le_iff_toNat_le]
    exact fun early => absurd (Nat.le_trans lower early) (by decide)
  simp [isSpace, other 32 (by decide), late]

-----------------------------------------------------------------------------------------
-- Decimal numbers
-----------------------------------------------------------------------------------------

/-- The value of the leading digits, continuing from `value`. -/
def digitsValue (value : Nat) : List UInt8 → Nat
  | [] => value
  | c :: rest => if isDigit c then digitsValue (10 * value + (c.toNat - 48)) rest else value

/-- The largest and smallest `long` of the target, whose `long` has 32 bits. -/
def clampLong (value : Int) : Int := max (-2147483648) (min 2147483647 value)

/-- `strtol(text, NULL, 10)`: blanks, a sign, digits, clamped to the range of `long`. -/
def strtol (text : List UInt8) : Int :=
  match text.dropWhile isSpace with
  | [] => 0
  | c :: rest =>
      if c == 45 then clampLong (-(digitsValue 0 rest))
      else if c == 43 then clampLong (digitsValue 0 rest)
      else clampLong (digitsValue 0 (c :: rest))

/-- The largest `unsigned long` of the target. -/
def ulongMax : Nat := 4294967295

/-- `strtoul(text, NULL, 10)`: blanks, a sign, digits, and the largest value where they are too many;
a minus sign negates in `unsigned long`.
-/
def strtoul (text : List UInt8) : Nat :=
  match text.dropWhile isSpace with
  | [] => 0
  | c :: rest =>
      if c == 45 then
        if digitsValue 0 rest > ulongMax then ulongMax
        else (ulongMax + 1 - digitsValue 0 rest) % (ulongMax + 1)
      else if c == 43 then min ulongMax (digitsValue 0 rest)
      else min ulongMax (digitsValue 0 (c :: rest))

/-- `atoi`, whose `int` is as wide as `long` on the target. -/
def atoi (text : List UInt8) : Int := strtol text

/-- The ASCII digit of a value below ten. -/
def digitByte (digit : Nat) : UInt8 := UInt8.ofNat (48 + digit)

/-- What `%d` prints for a non-negative number. -/
def decimal (value : Nat) : List UInt8 :=
  if value = 0 then [48] else (Nat.digits 10 value).reverse.map digitByte

theorem isDigit_digitByte {digit : Nat} (small : digit < 10)
    : isDigit (digitByte digit) = true := by
  interval_cases digit <;> rfl

theorem toNat_digitByte {digit : Nat} (small : digit < 10)
    : (digitByte digit).toNat - 48 = digit := by
  interval_cases digit <;> rfl

/-- A printed digit is neither blank nor a sign. -/
theorem digitByte_plain {digit : Nat} (small : digit < 10)
    : isSpace (digitByte digit) = false ∧ digitByte digit ≠ 45 ∧ digitByte digit ≠ 43 := by
  interval_cases digit <;> decide

/-- Reading printed digits evaluates them, most significant first, by induction on them. -/
theorem digitsValue_map_digitByte {digits : List Nat} (small : ∀ digit ∈ digits, digit < 10)
    (value : Nat)
    : digitsValue value (digits.map digitByte)
      = digits.foldl (fun total digit => 10 * total + digit) value := by
  induction digits generalizing value with
  | nil => rfl
  | cons digit rest ih =>
      have smallDigit := small digit (by simp)
      simp only [List.map_cons, digitsValue, isDigit_digitByte smallDigit, if_true,
        toNat_digitByte smallDigit, List.foldl_cons]
      exact ih (fun other member => small other (by simp [member])) _

theorem digitsValue_decimal (value : Nat) : digitsValue 0 (decimal value) = value := by
  by_cases zero : value = 0
  · subst zero
    rfl
  · have small : ∀ digit ∈ (Nat.digits 10 value).reverse, digit < 10 := by
      intro digit member
      exact Nat.digits_lt_base (by decide) (List.mem_reverse.mp member)
    rw [decimal, if_neg zero, digitsValue_map_digitByte small, List.foldl_reverse]
    have folded := Nat.ofDigits_eq_foldr 10 (Nat.digits 10 value)
    rw [Nat.ofDigits_digits] at folded
    calc
      (Nat.digits 10 value).foldr (fun digit total => 10 * total + digit) 0
          = (Nat.digits 10 value).foldr (fun digit total => digit + 10 * total) 0 := by
        simp only [add_comm]
      _ = value := folded.symm

/-- Printed numbers start with a digit. -/
theorem decimal_head (value : Nat)
    : ∃ digit rest, digit < 10 ∧ decimal value = digitByte digit :: rest := by
  by_cases zero : value = 0
  · exact ⟨0, [], by decide, by simp [decimal, zero, digitByte]⟩
  · cases reversed : (Nat.digits 10 value).reverse with
    | nil =>
        exact absurd (List.reverse_eq_nil_iff.mp reversed)
          (Nat.digits_ne_nil_iff_ne_zero.mpr zero)
    | cons digit rest =>
        have member : digit ∈ Nat.digits 10 value := by
          rw [← List.mem_reverse, reversed]
          simp
        exact ⟨digit, rest.map digitByte, Nat.digits_lt_base (by decide) member,
          by rw [decimal, if_neg zero, reversed]; rfl⟩

/-- Numbers below ten thousand million have at most ten digits. -/
theorem length_decimal_le {value : Nat} (small : value < 10 ^ 10)
    : (decimal value).length ≤ 10 := by
  by_cases zero : value = 0
  · simp [decimal, zero]
  · rw [decimal, if_neg zero, List.length_map, List.length_reverse]
    exact (Nat.digits_length_le_iff (by decide) value).mpr small

/-- A printed number holds only digits. -/
theorem isDigit_of_mem_decimal {value : Nat} {c : UInt8} (member : c ∈ decimal value)
    : isDigit c = true := by
  by_cases zero : value = 0
  · simp only [decimal, zero, if_true, List.mem_singleton] at member
    subst member
    rfl
  · rw [decimal, if_neg zero, List.mem_map] at member
    obtain ⟨digit, known, rfl⟩ := member
    exact isDigit_digitByte (Nat.digits_lt_base (by decide) (List.mem_reverse.mp known))

/-- `atoi` reads back what `%d` printed. -/
theorem atoi_decimal {value : Nat} (fits : value ≤ 2147483647)
    : atoi (decimal value) = value := by
  obtain ⟨digit, rest, small, printed⟩ := decimal_head value
  obtain ⟨notSpace, notMinus, notPlus⟩ := digitByte_plain small
  have read : digitsValue 0 (digitByte digit :: rest) = value := by
    rw [← printed]
    exact digitsValue_decimal value
  rw [atoi, strtol, printed, List.dropWhile_cons_of_neg (by simp [notSpace])]
  simp only [beq_iff_eq, notMinus, notPlus, if_false, read, clampLong]
  omega

end Library.CText
