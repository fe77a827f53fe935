import Mathlib.Algebra.GroupWithZero.Nat
import Mathlib.Data.List.TakeWhile

/-! C strings and the fixed character arrays that hold them.
A string stops at its terminator, so it is the list of bytes before the first NUL.
-/

namespace Library

/-- The bytes of a NUL-terminated string, without the terminator. -/
structure CString where
  bytes : List UInt8
  noNul : 0 ∉ bytes
deriving DecidableEq

namespace CString

@[ext] theorem ext {left right : CString} (same : left.bytes = right.bytes) : left = right := by
  cases left
  cases right
  simpa using same

/-- The string literal `""`. -/
def empty : CString := ⟨[], by simp⟩

instance : Inhabited CString := ⟨empty⟩

/-- The C literal with the characters of `literal`, which are ASCII in every use. -/
def ofLiteral (literal : String) : CString :=
  ⟨(literal.toList.map fun c => UInt8.ofNat c.toNat).filter (· ≠ 0), by simp⟩

/-- The string a byte array holds: everything before its first NUL. -/
def ofBytes (bytes : List UInt8) : CString :=
  ⟨bytes.takeWhile (· ≠ 0), fun member => by simpa using List.mem_takeWhile_imp member⟩

/-- `text[0] == '\0'`. -/
def isEmpty (text : CString) : Bool := text.bytes.isEmpty

/-- `strlen(text)`. -/
def length (text : CString) : Nat := text.bytes.length

/-- The first `count` bytes, as `strncpy` followed by an explicit terminator keeps them. -/
def take (text : CString) (count : Nat) : CString :=
  ⟨text.bytes.take count, fun member => text.noNul (List.mem_of_mem_take member)⟩

/-- The string that starts at a position. -/
def drop (text : CString) (count : Nat) : CString :=
  ⟨text.bytes.drop count, fun member => text.noNul (List.mem_of_mem_drop member)⟩

/-- `strchr(text, c) - text`. -/
def strchr (text : CString) (c : UInt8) : Option Nat := text.bytes.findIdx? (· == c)

/-- `strrchr(text, c) - text`. -/
def strrchr (text : CString) (c : UInt8) : Option Nat :=
  (text.bytes.reverse.findIdx? (· == c)).map fun behind => text.length - 1 - behind

/-- Two strings printed one after the other. -/
def append (left right : CString) : CString :=
  ⟨left.bytes ++ right.bytes, by simp [left.noNul, right.noNul]⟩

instance : Append CString := ⟨append⟩

@[simp] theorem bytes_empty : empty.bytes = [] := rfl

@[simp] theorem bytes_append (left right : CString)
    : (left ++ right).bytes = left.bytes ++ right.bytes := rfl

@[simp] theorem bytes_take (text : CString) (count : Nat)
    : (text.take count).bytes = text.bytes.take count := rfl

@[simp] theorem bytes_drop (text : CString) (count : Nat)
    : (text.drop count).bytes = text.bytes.drop count := rfl

@[simp] theorem isEmpty_iff (text : CString) : text.isEmpty = true ↔ text = empty := by
  constructor
  · intro none
    exact ext (List.isEmpty_iff.mp none)
  · rintro rfl
    rfl

@[simp] theorem isEmpty_empty : empty.isEmpty = true := rfl

/-- Bytes without a NUL are a string as they stand. -/
theorem bytes_ofBytes {bytes : List UInt8} (noNul : 0 ∉ bytes) : (ofBytes bytes).bytes = bytes := by
  rw [ofBytes, List.takeWhile_eq_self_iff]
  intro c member
  simpa using fun zero : c = 0 => noNul (zero ▸ member)

theorem length_ofBytes_le (bytes : List UInt8) : (ofBytes bytes).length ≤ bytes.length :=
  List.IsPrefix.length_le (List.takeWhile_prefix fun c => decide (c ≠ 0))

@[simp] theorem ofBytes_bytes (text : CString) : ofBytes text.bytes = text :=
  ext (bytes_ofBytes text.noNul)

theorem findIdx?_beq_eq_none {bytes : List UInt8} {c : UInt8}
    : bytes.findIdx? (· == c) = none ↔ c ∉ bytes := by
  rw [List.findIdx?_eq_none_iff]
  constructor
  · intro other member
    simpa using other c member
  · intro absent other member
    exact beq_false_of_ne (ne_of_mem_of_not_mem member absent)

theorem strchr_eq_none {text : CString} {c : UInt8} : text.strchr c = none ↔ c ∉ text.bytes :=
  findIdx?_beq_eq_none

theorem findIdx?_beq_append {c : UInt8} {front : List UInt8} (rest : List UInt8)
    (absent : c ∉ front)
    : (front ++ c :: rest).findIdx? (· == c) = some front.length := by
  rw [List.findIdx?_append, findIdx?_beq_eq_none.2 absent]
  simp [List.findIdx?_cons]

/-- The first occurrence has none before it. -/
theorem strchr_of_append {text : CString} {c : UInt8} {front rest : List UInt8}
    (split : text.bytes = front ++ c :: rest) (absent : c ∉ front)
    : text.strchr c = some front.length := by
  rw [strchr, split, findIdx?_beq_append rest absent]

/-- The last occurrence has none behind it. -/
theorem strrchr_of_append {text : CString} {c : UInt8} {front rest : List UInt8}
    (split : text.bytes = front ++ c :: rest) (absent : c ∉ rest)
    : text.strrchr c = some front.length := by
  have none : rest.reverse.findIdx? (· == c) = none :=
    findIdx?_beq_eq_none.2 (by simpa using absent)
  rw [strrchr, length, split, List.reverse_append, List.reverse_cons, List.append_assoc,
    List.findIdx?_append, none]
  simp [List.findIdx?_cons]

/-- Cutting past the end changes nothing. -/
theorem take_of_length_le {text : CString} {count : Nat} (fits : text.length ≤ count)
    : text.take count = text :=
  ext (List.take_of_length_le fits)

/-- Cutting at a positive length keeps the string's emptiness. -/
theorem isEmpty_take {text : CString} {count : Nat} (positive : 0 < count)
    : (text.take count).isEmpty = text.isEmpty := by
  obtain ⟨bytes, noNul⟩ := text
  cases bytes with
  | nil => simp [isEmpty, take]
  | cons head tail =>
      cases count with
      | zero => omega
      | succ count => simp [isEmpty, take]

end CString

/-- A `char[size]` whose content is terminated inside the array. -/
structure CharArray (size : Nat) where
  text : CString
  fits : text.length < size
deriving DecidableEq

namespace CharArray

variable {size : Nat}

@[ext] theorem ext {left right : CharArray size} (same : left.text = right.text)
    : left = right := by
  cases left
  cases right
  simpa using same

-- Named, so that all arrays of one size carry the same proof.
instance neZero5 : NeZero 5 := ⟨by decide⟩
instance neZero16 : NeZero 16 := ⟨by decide⟩
instance neZero18 : NeZero 18 := ⟨by decide⟩
instance neZero33 : NeZero 33 := ⟨by decide⟩
instance neZero64 : NeZero 64 := ⟨by decide⟩
instance neZero256 : NeZero 256 := ⟨by decide⟩
instance neZero512 : NeZero 512 := ⟨by decide⟩

variable [NeZero size]

/-- `strncpy(out, text, size - 1)` and a terminator in the last byte. -/
def copy (size : Nat) [NeZero size] (text : CString) : CharArray size :=
  ⟨text.take (size - 1), by
    have positive := Nat.pos_of_neZero size
    simp only [CString.length, CString.bytes_take, List.length_take]
    omega⟩

/-- An array cleared by `memset(.., 0, ..)`. -/
def empty : CharArray size := ⟨CString.empty, Nat.pos_of_neZero size⟩

instance : Inhabited (CharArray size) := ⟨empty⟩

@[simp] theorem text_copy (text : CString) : (copy size text).text = text.take (size - 1) := rfl

@[simp] theorem text_empty : (empty : CharArray size).text = CString.empty := rfl

/-- Copying between arrays of one size keeps the whole string. -/
@[simp] theorem copy_text (array : CharArray size) : copy size array.text = array :=
  ext (CString.take_of_length_le (by have := array.fits; omega))

/-- A string that fits is copied whole. -/
theorem text_copy_of_length_lt {text : CString} (fits : text.length < size)
    : (copy size text).text = text :=
  CString.take_of_length_le (by omega)

/-- `array[0] == '\0'`. -/
def isEmpty (array : CharArray size) : Bool := array.text.isEmpty

omit [NeZero size] in
theorem isEmpty_eq (array : CharArray size) : array.isEmpty = array.text.isEmpty := rfl

end CharArray

end Library
