import Mathlib.Data.List.Basic

/-! Encoded text as a list of code points, each a lead byte and the bytes that continue it, and
what is left of a text that is cut at a number of bytes.
-/

namespace Library

/-- The byte continues a code point. -/
def Continues (byte : UInt8) : Prop := byte &&& 0xc0 = 0x80

instance (byte : UInt8) : Decidable (Continues byte) := inferInstanceAs (Decidable (_ = _))

/-- How many bytes a code point takes, by its lead byte. -/
def leadWidth (lead : UInt8) : Nat :=
  if lead < 0x80 then 1 else if lead < 0xe0 then 2 else if lead < 0xf0 then 3 else 4

/-- A code point other than NUL. -/
structure CodePoint where
  lead : UInt8
  tail : List UInt8
  nonzero : lead ≠ 0
  leads : ¬ Continues lead
  width : tail.length + 1 = leadWidth lead
  continued : ∀ byte ∈ tail, Continues byte
deriving DecidableEq

namespace CodePoint

/-- The bytes of a code point. -/
def bytes (point : CodePoint) : List UInt8 := point.lead :: point.tail

/-- A code point of one byte. -/
def single (lead : UInt8) (nonzero : lead ≠ 0) (leads : ¬ Continues lead)
    (width : leadWidth lead = 1)
    : CodePoint where
  lead
  tail := []
  nonzero
  leads
  width := width.symm
  continued := by simp

/-- The digit 1. -/
def one : CodePoint := .single 49 (by decide) (by decide) (by decide)

/-- The bytes of a text. -/
def bytesAll (points : List CodePoint) : List UInt8 := points.flatMap bytes

/-- The leading code points that fit into a number of bytes. -/
def clip : Nat → List CodePoint → List CodePoint
  | _, [] => []
  | room, point :: rest =>
      if point.bytes.length ≤ room then point :: clip (room - point.bytes.length) rest else []

@[simp] theorem bytesAll_nil : bytesAll [] = [] := rfl

@[simp] theorem bytesAll_cons (point : CodePoint) (rest : List CodePoint)
    : bytesAll (point :: rest) = point.bytes ++ bytesAll rest := rfl

@[simp] theorem bytesAll_append (first second : List CodePoint)
    : bytesAll (first ++ second) = bytesAll first ++ bytesAll second :=
  List.flatMap_append

/-- Encoded text has no NUL. -/
theorem noNul (points : List CodePoint) : 0 ∉ bytesAll points := by
  intro member
  obtain ⟨point, -, here⟩ := List.mem_flatMap.1 member
  obtain zero | continued := List.mem_cons.1 here
  · exact point.nonzero zero.symm
  · exact absurd (point.continued 0 continued) (by decide)

/-- Clipped text fits, by induction on it. -/
theorem length_clip_le (room : Nat) (points : List CodePoint)
    : (bytesAll (clip room points)).length ≤ room := by
  induction points generalizing room with
  | nil => simp [clip]
  | cons point rest ih =>
      rw [clip]
      split
      · have shorter := ih (room - point.bytes.length)
        rw [bytesAll_cons, List.length_append]
        omega
      · simp

/-- The longest leading part of a text, in whole code points, that fits into a number of bytes. -/
structure LongestFitting (room : Nat) (points kept : List CodePoint) : Prop where
  leading : kept <+: points
  fits : (bytesAll kept).length ≤ room
  longest : ∀ other, other <+: points → (bytesAll other).length ≤ room → other <+: kept

/-- Clipping keeps the longest part that fits, by induction on the text. -/
theorem longestFitting_clip (room : Nat) (points : List CodePoint)
    : LongestFitting room points (clip room points) := by
  refine ⟨?_, length_clip_le room points, ?_⟩
  · induction points generalizing room with
    | nil => exact List.nil_prefix
    | cons point rest ih =>
        rw [clip]
        split
        · exact List.prefix_cons_inj point |>.2 (ih _)
        · exact List.nil_prefix
  · intro other leading fits
    induction points generalizing room other with
    | nil => exact leading
    | cons point rest ih =>
        cases other with
        | nil => exact List.nil_prefix
        | cons first others =>
            obtain ⟨rfl, starts⟩ := List.cons_prefix_cons.1 leading
            rw [bytesAll_cons, List.length_append] at fits
            rw [clip, if_pos (by omega), List.prefix_cons_inj]
            exact ih _ _ starts (by omega)

/-- What is cut off a text at a number of bytes: nothing but whole code points, or also a part of
the next one.
-/
theorem take_bytesAll (room : Nat) (points : List CodePoint)
    : (bytesAll points).take room = bytesAll (clip room points)
      ∨ ∃ point : CodePoint, ∃ part,
          (bytesAll points).take room = bytesAll (clip room points) ++ part
          ∧ part <+: point.bytes
          ∧ part ≠ []
          ∧ part.length < point.bytes.length := by
  induction points generalizing room with
  | nil => exact .inl (by simp [clip])
  | cons point rest ih =>
      rw [clip, bytesAll_cons]
      split
      · rename_i fits
        rw [bytesAll_cons, List.take_append, List.take_of_length_le fits]
        obtain same | ⟨next, part, same, starts, some, short⟩ := ih (room - point.bytes.length)
        · exact .inl (by rw [same])
        · exact .inr ⟨next, part, by rw [same, List.append_assoc], starts, some, short⟩
      · rename_i long
        have inside : (point.bytes ++ bytesAll rest).take room = point.bytes.take room := by
          rw [List.take_append_of_le_length (by omega)]
        rw [inside]
        by_cases none : room = 0
        · exact .inl (by simp [none])
        · refine .inr ⟨point, point.bytes.take room, by simp, List.take_prefix _ _, ?_, ?_⟩
          · rw [← List.length_pos_iff, List.length_take]
            omega
          · rw [List.length_take]
            omega

end CodePoint

end Library
