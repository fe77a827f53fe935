import VitaMoonlight.GameStream.Response
import VitaMoonlight.Library.CodePoint

/-! What the texts of the strict reader stand for: numbers between blanks, titles clipped to
whole code points, and session URLs.
-/

namespace VitaMoonlight

open Library Library.CText

-----------------------------------------------------------------------------------------
-- Numbers
-----------------------------------------------------------------------------------------

/-- The text is a decimal number that an `int` holds, with optional blanks around it. -/
def NumberText (text : List UInt8) (value : Nat) : Prop :=
  ∃ before digits after,
    text = before ++ digits ++ after
    ∧ (∀ c ∈ before, isXmlSpace c = true)
    ∧ digits ≠ []
    ∧ (∀ c ∈ digits, isDigit c = true)
    ∧ (∀ c ∈ after, isXmlSpace c = true)
    ∧ digitsValue 0 digits = value
    ∧ value ≤ intMax

theorem isDigit_not_space {c : UInt8} (digit : isDigit c = true) : isXmlSpace c = false := by
  unfold isDigit at digit
  unfold isXmlSpace
  grind

/-- The digits of a number end where blanks begin. -/
theorem head_not_digit {after : List UInt8} (blank : ∀ c ∈ after, isXmlSpace c = true)
    : ∀ c ∈ after.head?, isDigit c = false := by
  intro c head
  rw [Bool.eq_false_iff]
  intro digit
  have space := blank c (List.mem_of_head? head)
  exact Bool.false_ne_true ((isDigit_not_space digit).symm.trans space)

theorem isDigit_value {c : UInt8} (digit : isDigit c = true) : c.toNat - 48 < 10 := by
  unfold isDigit at digit
  simp only [Bool.and_eq_true, decide_eq_true_eq, UInt8.le_iff_toNat_le] at digit
  have upper : c.toNat ≤ 57 := digit.2
  omega

/-- The digits of a number only add to its value, by induction on them. -/
theorem le_digitsValue (digits : List UInt8) (value : Nat) : value ≤ digitsValue value digits := by
  induction digits generalizing value with
  | nil => exact le_rfl
  | cons c rest ih =>
      rw [digitsValue]
      split
      · exact le_trans (by omega) (ih _)
      · exact le_rfl

/-- The digit loop reads all leading digits, or fails when their value does not fit an `int`,
by induction on the digits.
-/
theorem parseDigits_append (digits rest : List UInt8) (all : ∀ c ∈ digits, isDigit c = true)
    (stop : ∀ c ∈ rest.head?, isDigit c = false) (result count : Nat) (fits : result ≤ intMax)
    : parseDigits result count (digits ++ rest)
      = if digitsValue result digits ≤ intMax then
          some (digitsValue result digits, count + digits.length, rest)
        else none := by
  induction digits generalizing result count with
  | nil =>
      rw [List.nil_append, digitsValue, if_pos fits]
      cases rest with
      | nil => rfl
      | cons c rest =>
          rw [parseDigits, if_neg (Bool.eq_false_iff.1 (stop c rfl))]
          rfl
  | cons c digits ih =>
      rw [List.forall_mem_cons] at all
      obtain ⟨digit, others⟩ := all
      have small := isDigit_value digit
      rw [List.cons_append, parseDigits, if_pos digit, digitsValue, if_pos digit]
      dsimp only
      have larger := le_digitsValue digits (10 * result + (c.toNat - 48))
      by_cases overflow : result > (intMax - (c.toNat - 48)) / 10
      · rw [if_pos overflow, if_neg]
        unfold intMax at *
        omega
      · have next : result * 10 + (c.toNat - 48) = 10 * result + (c.toNat - 48) := by omega
        rw [if_neg overflow, next, ih others]
        · simp [List.length_cons, Nat.add_comm, Nat.add_left_comm]
        · unfold intMax at *
          omega

/-- `parse_number` reads the numbers and nothing else. -/
theorem parseNumber_iff (text : CString) (value : Nat)
    : parseNumber text = some value ↔ NumberText text.bytes value := by
  constructor
  · intro read
    let digits := (text.bytes.dropWhile isXmlSpace).takeWhile isDigit
    let rest := (text.bytes.dropWhile isXmlSpace).dropWhile isDigit
    have split : text.bytes.dropWhile isXmlSpace = digits ++ rest :=
      (List.takeWhile_append_dropWhile).symm
    have all : ∀ c ∈ digits, isDigit c = true := fun c member => List.mem_takeWhile_imp member
    have stop : ∀ c ∈ rest.head?, isDigit c = false := by
      intro c head
      have kept := List.head?_dropWhile_not isDigit (text.bytes.dropWhile isXmlSpace)
      rw [show (text.bytes.dropWhile isXmlSpace).dropWhile isDigit = rest from rfl, head] at kept
      simpa using kept
    rw [parseNumber, split, parseDigits_append digits rest all stop 0 0 (Nat.zero_le _)] at read
    split at read
    · contradiction
    · rename_i result count left parsed
      split at parsed
      · rename_i fits
        obtain ⟨rfl, rfl, rfl⟩ := by simpa using parsed
        split at read
        · contradiction
        · rename_i accepted
          obtain rfl := Option.some.inj read
          refine ⟨text.bytes.takeWhile isXmlSpace, digits, rest, ?_, ?_, ?_, all, ?_, rfl, fits⟩
          · rw [List.append_assoc, ← split, List.takeWhile_append_dropWhile]
          · exact fun c member => List.mem_takeWhile_imp member
          · rintro none
            exact accepted (.inl (by simp [none]))
          · refine List.dropWhile_eq_nil_iff.1 ?_
            by_contra more
            exact accepted (.inr more)
      · contradiction
  · rintro ⟨before, digits, after, split, blank, some, all, blankAfter, rfl, fits⟩
    have skipped : text.bytes.dropWhile isXmlSpace = digits ++ after := by
      rw [split, List.append_assoc, List.dropWhile_append_of_pos blank]
      cases digits with
      | nil => exact absurd rfl some
      | cons c digits =>
          rw [List.cons_append, List.dropWhile_cons_of_neg]
          simp [isDigit_not_space (all c List.mem_cons_self)]
    have stop := head_not_digit blankAfter
    rw [parseNumber, skipped, parseDigits_append digits after all stop 0 0 (Nat.zero_le _),
      if_pos fits]
    dsimp only
    rw [if_neg]
    rintro (none | more)
    · exact some (List.length_eq_zero_iff.1 (by omega))
    · exact more (List.dropWhile_eq_nil_iff.2 blankAfter)

-----------------------------------------------------------------------------------------
-- Titles
-----------------------------------------------------------------------------------------

/-- The last code point starts at its lead byte, by induction on what continues it. -/
theorem codePointStart_append (front : List UInt8) (lead : UInt8) (tail : List UInt8)
    (leads : ¬ Continues lead) (continued : ∀ c ∈ tail, Continues c)
    : codePointStart (front ++ lead :: tail) (front.length + tail.length) = front.length := by
  have back
      : ∀ more,
          more ≤ tail.length
          → codePointStart (front ++ lead :: tail) (front.length + more) = front.length := by
    intro more
    induction more with
    | zero =>
        intro _
        cases length : front.length with
        | zero => rfl
        | succ position =>
            have here : (front ++ lead :: tail).getD (position + 1) 0 = lead := by
              simp [List.getD, ← length]
            rw [Nat.add_zero, codePointStart, here]
            exact if_neg leads
    | succ more ih =>
        intro inside
        have here : (front ++ lead :: tail).getD (front.length + more + 1) 0 = tail[more] := by
          simp [List.getD, Nat.add_assoc, List.getElem?_append_right,
            List.getElem?_eq_getElem (show more < tail.length from inside)]
        rw [← Nat.add_assoc, codePointStart, here, if_pos, ih (by omega)]
        exact continued _ (List.getElem_mem _)
  exact back _ le_rfl

/-- A text that ends with a code point, or with a part of one, which is taken off. -/
theorem finishTitle_append (front : List UInt8) (lead : UInt8) (tail : List UInt8)
    (leads : ¬ Continues lead) (continued : ∀ c ∈ tail, Continues c)
    : finishTitle (front ++ lead :: tail)
      = if tail.length + 1 < leadWidth lead then front else front ++ lead :: tail := by
  have length : (front ++ lead :: tail).length - 1 = front.length + tail.length := by
    simp only [List.length_append, List.length_cons]
    omega
  have first : (front ++ lead :: tail).getD front.length 0 = lead := by
    simp [List.getD]
  unfold finishTitle
  rw [if_neg (by simp)]
  dsimp only
  rw [length, codePointStart_append front lead tail leads continued, first]
  change
    (if front.length + leadWidth lead > (front ++ lead :: tail).length then
        (front ++ lead :: tail).take front.length
      else front ++ lead :: tail)
      = _
  by_cases short : tail.length + 1 < leadWidth lead
  · rw [if_pos short, if_pos, List.take_left]
    simp only [List.length_append, List.length_cons]
    omega
  · rw [if_neg short, if_neg]
    simp only [List.length_append, List.length_cons]
    omega

/-- `finish_title` leaves the whole code points of a text that was cut. -/
theorem finishTitle_take (points : List CodePoint)
    : finishTitle ((CodePoint.bytesAll points).take 255)
      = CodePoint.bytesAll (CodePoint.clip 255 points) := by
  obtain whole | ⟨point, part, cut, starts, some, short⟩ := CodePoint.take_bytesAll 255 points
  · rw [whole]
    rcases List.eq_nil_or_concat (CodePoint.clip 255 points) with none | ⟨init, last, ends⟩
    · rw [none]
      rfl
    · have split
          : CodePoint.bytesAll (CodePoint.clip 255 points)
            = CodePoint.bytesAll init ++ last.lead :: last.tail := by
        rw [ends, List.concat_eq_append, CodePoint.bytesAll_append]
        simp [CodePoint.bytes]
      rw [split, finishTitle_append _ _ _ last.leads last.continued, if_neg]
      exact not_lt.2 last.width.symm.le
  · rw [cut]
    cases part with
    | nil => exact absurd rfl some
    | cons lead tail =>
        obtain ⟨rest, same⟩ := starts
        obtain ⟨rfl, tails⟩ := List.cons.inj same
        have continued : ∀ c ∈ tail, Continues c := by
          intro c member
          exact point.continued c (tails ▸ List.mem_append_left _ member)
        rw [finishTitle_append _ _ _ point.leads continued, if_pos]
        rw [← point.width]
        simpa [CodePoint.bytes] using short

/-- A scheme of a session URL. -/
def IsSessionScheme (scheme : List UInt8) : Prop :=
  scheme = (CString.ofLiteral "rtsp://").bytes ∨ scheme = (CString.ofLiteral "rtspenc://").bytes

/-- The text is a session URL: a scheme, something behind it and no blank. -/
def SessionUrl (text : List UInt8) : Prop :=
  (∃ scheme suffix, IsSessionScheme scheme ∧ suffix ≠ [] ∧ text = scheme ++ suffix)
  ∧ ∀ c ∈ text, isXmlSpace c = false

theorem validSessionUrl_iff (text : CString)
    : validSessionUrl text = true ↔ SessionUrl text.bytes := by
  have behind
      : ∀ scheme : CString,
          (scheme.bytes.isPrefixOf text.bytes && scheme.length < text.length) = true
          ↔ ∃ suffix, suffix ≠ [] ∧ text.bytes = scheme.bytes ++ suffix := by
    intro scheme
    simp only [Bool.and_eq_true, List.isPrefixOf_iff_prefix, decide_eq_true_eq]
    constructor
    · rintro ⟨⟨suffix, same⟩, longer⟩
      refine ⟨suffix, ?_, same.symm⟩
      rintro rfl
      rw [CString.length, CString.length, ← same, List.append_nil] at longer
      omega
    · rintro ⟨suffix, some, same⟩
      refine ⟨⟨suffix, same.symm⟩, ?_⟩
      rw [CString.length, CString.length, same, List.length_append]
      have positive := List.length_pos_iff.2 some
      omega
  unfold validSessionUrl SessionUrl IsSessionScheme
  rw [Bool.and_eq_true]
  refine and_congr ?_ (by simp)
  simp only [List.any_cons, List.any_nil, Bool.or_false, Bool.or_eq_true, behind]
  constructor
  · rintro (⟨suffix, some, same⟩ | ⟨suffix, some, same⟩)
    · exact ⟨_, suffix, .inl rfl, some, same⟩
    · exact ⟨_, suffix, .inr rfl, some, same⟩
  · rintro ⟨scheme, suffix, rfl | rfl, some, same⟩
    · exact .inl ⟨suffix, some, same⟩
    · exact .inr ⟨suffix, some, same⟩

end VitaMoonlight
