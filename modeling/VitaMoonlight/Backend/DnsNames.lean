import VitaMoonlight.Library.Trail
import VitaMoonlight.Backend.MdnsSniffer

/-! The decoder of DNS names returns the name at its offset, and fails where there is none or where
it does not fit.
-/

namespace VitaMoonlight

open Library

-----------------------------------------------------------------------------------------
-- Encoded names
-----------------------------------------------------------------------------------------

/-- The bytes of the label whose length byte stands at a position. -/
def labelAt (msg : List UInt8) (pos : Nat) (count : UInt8) : List UInt8 :=
  (msg.drop (pos + 1)).take count.toNat

/-- A name at a position: the positions at which its labels and pointers stand, up to its zero byte,
its labels, and the length of its encoding in place.
-/
inductive EncodedName (msg : List UInt8) : Nat → List Nat → List (List UInt8) → Nat → Prop
  | finish {pos : Nat} (zero : msg[pos]? = some 0) : EncodedName msg pos [pos] [] 1
  | label {pos : Nat} {count : UInt8} {path : List Nat} {labels : List (List UInt8)}
      {length : Nat} (here : msg[pos]? = some count) (nonzero : count ≠ 0)
      (short : count.toNat < 64) (inside : pos + 1 + count.toNat ≤ msg.length)
      (rest : EncodedName msg (pos + count.toNat + 1) path labels length)
      : EncodedName msg pos (pos :: path) (labelAt msg pos count :: labels)
          (count.toNat + 1 + length)
  | pointer {pos : Nat} {high low : UInt8} {path : List Nat} {labels : List (List UInt8)}
      {length : Nat} (here : msg[pos]? = some high) (marked : 192 ≤ high.toNat)
      (next : msg[pos + 1]? = some low)
      (rest : EncodedName msg (pointerTarget high low) path labels length)
      : EncodedName msg pos (pos :: path) labels 2

/-- The name at an offset, in dots, and the length of its encoding in place. Following it from the
offset meets no position twice.
-/
def NameAt (msg : List UInt8) (offset : Int) (text : List UInt8) (length : Nat) : Prop :=
  ∃ (pos : Nat) (path : List Nat) (labels : List (List UInt8)),
    offset = pos
    ∧ EncodedName msg pos path labels length
    ∧ path.Nodup
    ∧ text = [46].intercalate labels

/-- Where the label or pointer at a position leads. -/
def nextPosition (msg : List UInt8) (pos : Nat) : Option Nat :=
  msg[pos]?.bind fun c =>
    if c = 0 then none
    else if 192 ≤ c.toNat then msg[pos + 1]?.map (pointerTarget c)
    else some (pos + c.toNat + 1)

namespace EncodedName

variable {msg : List UInt8} {pos length : Nat} {path : List Nat} {labels : List (List UInt8)}

/-- The positions of a name are a walk, which the bytes determine. -/
theorem trail (name : EncodedName msg pos path labels length)
    : Trail (nextPosition msg) pos path := by
  induction name with
  | finish zero =>
      exact .finish (by simp [nextPosition, zero])
  | label here nonzero short inside rest ih =>
      have plain : ¬ 192 ≤ UInt8.toNat _ := fun marked => absurd (Nat.lt_of_le_of_lt marked short)
        (by decide)
      exact .step (by simp [nextPosition, here, nonzero, plain]) ih
  | @pointer pos high low path labels length here marked next rest ih =>
      have nonzero : high ≠ 0 := by
        rintro rfl
        exact absurd marked (by decide)
      exact .step (by simp [nextPosition, here, nonzero, marked, next]) ih

/-- The positions of a name are in the packet. -/
theorem inside (name : EncodedName msg pos path labels length)
    : ∀ position ∈ path, position < msg.length := by
  induction name with
  | finish zero =>
      intro position member
      obtain rfl := List.mem_singleton.1 member
      exact (List.getElem?_eq_some_iff.1 zero).1
  | label here _ _ _ _ ih | pointer here _ _ _ ih =>
      intro position member
      obtain rfl | member := List.mem_cons.1 member
      · exact (List.getElem?_eq_some_iff.1 here).1
      · exact ih position member

theorem pos_mem (name : EncodedName msg pos path labels length) : pos ∈ path := by
  cases name <;> exact List.mem_cons_self

/-- A name has at most as many labels and pointers as the packet has bytes. -/
theorem length_path_le (name : EncodedName msg pos path labels length)
    : path.length ≤ msg.length :=
  length_le_of_nodup_lt name.trail.nodup name.inside

/-- The labels of a name are not empty. -/
theorem labels_ne_nil (name : EncodedName msg pos path labels length)
    : ∀ label ∈ labels, label ≠ [] := by
  induction name with
  | finish => exact fun _ member => absurd member List.not_mem_nil
  | @label pos count path labels length here nonzero short inside rest ih =>
      intro label member
      obtain rfl | member := List.mem_cons.1 member
      · intro none
        have taken : (labelAt msg pos count).length = count.toNat := by
          rw [labelAt, List.length_take, List.length_drop]
          omega
        rw [none, List.length_nil] at taken
        exact nonzero (UInt8.toNat_inj.1 taken.symm)
      · exact ih label member
  | pointer _ _ _ _ ih => exact ih

end EncodedName

/-- A label behind the text so far, with a dot between them. -/
def appendLabel (text label : List UInt8) : List UInt8 :=
  (if text = [] then [] else text ++ [46]) ++ label

theorem length_appendLabel (text label : List UInt8)
    : (appendLabel text label).length
      = text.length + (if text.length ≠ 0 then 1 else 0) + label.length := by
  cases text with
  | nil => simp [appendLabel]
  | cons c rest =>
      simp only [appendLabel, reduceCtorEq, if_false, List.length_append, List.length_cons,
        List.length_nil, ne_eq, Nat.add_eq_zero_iff, Nat.one_ne_zero, and_false, not_false_eq_true,
        if_true]

theorem length_le_foldl_appendLabel (labels : List (List UInt8)) (text : List UInt8)
    : text.length ≤ (labels.foldl appendLabel text).length := by
  induction labels generalizing text with
  | nil => exact Nat.le_refl _
  | cons label rest ih =>
      refine Nat.le_trans ?_ (ih (appendLabel text label))
      rw [length_appendLabel]
      omega

theorem foldl_appendLabel_of_ne_nil (labels : List (List UInt8)) {text : List UInt8}
    (begun : text ≠ [])
    : labels.foldl appendLabel text = [46].intercalate (text :: labels) := by
  induction labels generalizing text with
  | nil => simp [List.intercalate]
  | cons label rest ih =>
      have joined : appendLabel text label = text ++ [46] ++ label := by
        rw [appendLabel, if_neg begun]
      rw [List.foldl_cons, ih (by simp [joined]), joined]
      cases rest <;> simp [List.intercalate, List.intersperse]

/-- Labels appended one after the other are the labels in dots. -/
theorem foldl_appendLabel {labels : List (List UInt8)} (filled : ∀ label ∈ labels, label ≠ [])
    : labels.foldl appendLabel [] = [46].intercalate labels := by
  cases labels with
  | nil => rfl
  | cons label rest =>
      exact foldl_appendLabel_of_ne_nil rest (filled label List.mem_cons_self)

-----------------------------------------------------------------------------------------
-- Steps of the decoder
-----------------------------------------------------------------------------------------

theorem pointer_bits (c : UInt8) : c &&& 0xc0 = 0xc0 ↔ 192 ≤ c.toNat := by
  have all : ∀ n : Fin 256, UInt8.ofNat n.val &&& 0xc0 = 0xc0 ↔ 192 ≤ n.val := by
    decide +kernel
  simpa using all ⟨c.toNat, c.toNat_lt⟩

theorem label_bits (c : UInt8) : c &&& 0xc0 = 0 ↔ c.toNat < 64 := by
  have all : ∀ n : Fin 256, UInt8.ofNat n.val &&& 0xc0 = 0 ↔ n.val < 64 := by
    decide +kernel
  simpa using all ⟨c.toNat, c.toNat_lt⟩

theorem readByte_eq_ok {msg : List UInt8} {pos : Nat} {c : UInt8} (here : msg[pos]? = some c)
    : readByte msg pos = .ok c := by
  rw [readByte, here]

theorem writeByte_append (before after : List UInt8) (old c : UInt8)
    : writeByte (before ++ old :: after) before.length c = .ok (before ++ c :: after) := by
  simp [writeByte]

theorem copyBytes_append (before after msg : List UInt8) {start count : Nat}
    (inside : start + count ≤ msg.length) (room : count ≤ after.length)
    : copyBytes (before ++ after) before.length msg start count
      = .ok (before ++ (msg.drop start).take count ++ after.drop count) := by
  rw [copyBytes, if_neg (by omega), if_neg (by rw [List.length_append]; omega), List.take_left,
    ← List.drop_drop, List.drop_left]

/-- A label is stored behind the text so far, and what the array holds behind it stays. -/
theorem storeLabel_text (text rest msg : List UInt8) {start count : Nat}
    (inside : start + count ≤ msg.length)
    (room : (if text.length ≠ 0 then 1 else 0) + count ≤ rest.length)
    : storeLabel (text ++ 0 :: rest) text.length (if text.length ≠ 0 then 1 else 0) msg start count
      = .ok
          (appendLabel text ((msg.drop start).take count)
            ++ 0 :: rest.drop ((if text.length ≠ 0 then 1 else 0) + count)) := by
  have label : ((msg.drop start).take count).length = count := by
    rw [List.length_take, List.length_drop]
    omega
  by_cases begun : text = []
  · subst begun
    have bound : count < (0 :: rest).length := by
      simp at room ⊢
      omega
    have copied := copyBytes_append [] (0 :: rest) msg inside bound.le
    have stored := writeByte_append ((msg.drop start).take count) ((0 :: rest).drop (count + 1))
      ((0 :: rest)[count]) 0
    rw [label, ← List.drop_eq_getElem_cons bound] at stored
    simp only [storeLabel, List.nil_append, List.length_nil, ne_eq, not_true_eq_false, if_false,
      Nat.zero_ne_one, pure_bind, Nat.add_zero, Nat.zero_add] at copied ⊢
    rw [copied]
    exact stored
  · have bound : count < rest.length := by
      rw [if_pos (by simpa using begun)] at room
      omega
    have dotted := writeByte_append text rest 0 46
    have copied := copyBytes_append (text ++ [46]) rest msg inside bound.le
    have stored := writeByte_append (text ++ [46] ++ (msg.drop start).take count)
      (rest.drop (count + 1)) rest[count] 0
    rw [List.length_append, label, ← List.drop_eq_getElem_cons bound] at stored
    rw [List.append_assoc, List.singleton_append] at copied
    simp only [storeLabel, ne_eq, List.length_eq_zero_iff, begun, not_false_eq_true, if_true,
      dotted, List.length_append, List.length_singleton] at copied stored ⊢
    change (do
      let copied ← copyBytes (text ++ 46 :: rest) (text.length + 1) msg start count
      writeByte copied (text.length + 1 + count) 0) = _
    rw [copied, appendLabel, if_neg begun, Nat.add_comm 1 count]
    exact stored

/-- The output holds a text and its terminator, and behind them what the array held before. -/
structure Holds (decoder : NameDecoder) (buffer text : List UInt8) : Prop where
  out : decoder.out = text ++ 0 :: buffer.drop (text.length + 1)
  outpos : decoder.outpos = text.length
  fits : text.length < buffer.length

namespace Holds

variable {msg buffer text : List UInt8} {decoder : NameDecoder}

theorem length_out (holds : Holds decoder buffer text)
    : decoder.out.length = buffer.length := by
  have fits := holds.fits
  rw [holds.out, List.length_append, List.length_cons, List.length_drop]
  omega

/-- The encoded length when this much more is read; nothing counts behind a pointer. -/
def reached (decoder : NameDecoder) (more : Nat) : Nat :=
  if decoder.jumped then decoder.consumed else decoder.consumed + more

/-- The zero byte ends the name. -/
theorem step_finish (zero : msg[decoder.pos]? = some 0)
    : decodeStep msg decoder = .ok (.returned (reached decoder 1 : Nat) decoder.out) := by
  simp only [decodeStep, readByte_eq_ok zero, bind, Except.bind, if_true]
  rfl

/-- A pointer is followed. -/
theorem step_pointer {high low : UInt8} (here : msg[decoder.pos]? = some high)
    (marked : 192 ≤ high.toNat) (next : msg[decoder.pos + 1]? = some low)
    (inside : pointerTarget high low < msg.length)
    : decodeStep msg decoder
      = .ok
          (.continued
            { decoder with
              consumed := reached decoder 2
              pos := pointerTarget high low
              jumped := true }) := by
  have nonzero : high ≠ 0 := by
    rintro rfl
    exact absurd marked (by decide)
  have read : ¬ decoder.pos + 1 ≥ msg.length :=
    Nat.not_le.2 (List.getElem?_eq_some_iff.1 next).1
  simp only [decodeStep, readByte_eq_ok here, readByte_eq_ok next, bind, Except.bind, nonzero,
    (pointer_bits high).2 marked, read, Nat.not_le.2 inside, if_false, if_true, ge_iff_le]
  rfl

/-- What the decoder holds behind a label. -/
def behindLabel (decoder : NameDecoder) (msg buffer text : List UInt8) (count : UInt8)
    : NameDecoder :=
  let label := labelAt msg decoder.pos count
  { out :=
      appendLabel text label ++ 0 :: buffer.drop ((appendLabel text label).length + 1)
    consumed := reached decoder (count.toNat + 1)
    jumped := decoder.jumped
    pos := decoder.pos + count.toNat + 1
    outpos := (appendLabel text label).length }

/-- A label that fits is appended. -/
theorem step_label (holds : Holds decoder buffer text) {count : UInt8}
    (here : msg[decoder.pos]? = some count) (nonzero : count ≠ 0) (short : count.toNat < 64)
    (inside : decoder.pos + 1 + count.toNat ≤ msg.length)
    (fits : (appendLabel text (labelAt msg decoder.pos count)).length < buffer.length)
    : decodeStep msg decoder = .ok (.continued (behindLabel decoder msg buffer text count)) := by
  have label : (labelAt msg decoder.pos count).length = count.toNat := by
    rw [labelAt, List.length_take, List.length_drop]
    omega
  have plain : ¬ count &&& 0xc0 = 0xc0 := by
    rw [pointer_bits]
    omega
  have whole : ¬ (count &&& 0xc0 ≠ 0 ∨ count.toNat > msg.length - decoder.pos - 1) := by
    rw [ne_eq, label_bits]
    omega
  have length := length_appendLabel text (labelAt msg decoder.pos count)
  rw [label] at length
  have room
      : ¬ count.toNat + (if decoder.outpos ≠ 0 then 1 else 0)
          ≥ decoder.out.length - decoder.outpos := by
    rw [holds.length_out, holds.outpos]
    omega
  have stored := storeLabel_text text (buffer.drop (text.length + 1)) msg inside (by
    rw [List.length_drop]
    omega)
  rw [List.drop_drop, ← holds.out, ← holds.outpos] at stored
  simp only [decodeStep, readByte_eq_ok here, bind, Except.bind, nonzero, plain, whole, if_false,
    room, stored]
  have behind
      : decoder.outpos + (if decoder.outpos ≠ 0 then 1 else 0) + count.toNat
        = (appendLabel text (labelAt msg decoder.pos count)).length := by
    rw [holds.outpos, length]
  rw [Nat.add_right_comm decoder.outpos 1, ← Nat.add_assoc decoder.outpos, behind]
  rfl

/-- What the decoder holds behind a label that fits. -/
theorem behindLabel_holds {count : UInt8}
    (fits : (appendLabel text (labelAt msg decoder.pos count)).length < buffer.length)
    : Holds (behindLabel decoder msg buffer text count) buffer
        (appendLabel text (labelAt msg decoder.pos count)) :=
  ⟨rfl, rfl, fits⟩

/-- A step that goes on went over a label that fits or over a pointer; one that returns has met the
zero byte or fails.
-/
theorem step_cases (holds : Holds decoder buffer text) (inside : decoder.pos < msg.length)
    : (msg[decoder.pos]? = some 0)
      ∨ decodeStep msg decoder = .ok (.returned (-1) decoder.out)
      ∨ (∃ count : UInt8,
          msg[decoder.pos]? = some count
          ∧ count ≠ 0
          ∧ count.toNat < 64
          ∧ decoder.pos + 1 + count.toNat ≤ msg.length
          ∧ (appendLabel text (labelAt msg decoder.pos count)).length < buffer.length)
      ∨ ∃ high low : UInt8,
          msg[decoder.pos]? = some high
          ∧ 192 ≤ high.toNat
          ∧ msg[decoder.pos + 1]? = some low
          ∧ pointerTarget high low < msg.length := by
  obtain ⟨c, here⟩ : ∃ c, msg[decoder.pos]? = some c := ⟨_, List.getElem?_eq_getElem inside⟩
  by_cases zero : c = 0
  · exact .inl (zero ▸ here)
  refine .inr ?_
  by_cases marked : 192 ≤ c.toNat
  · by_cases read : decoder.pos + 1 ≥ msg.length
    · left
      simp only [decodeStep, readByte_eq_ok here, bind, Except.bind, zero,
        (pointer_bits c).2 marked, read, if_false, if_true]
      rfl
    · obtain ⟨low, next⟩ : ∃ low, msg[decoder.pos + 1]? = some low :=
        ⟨_, List.getElem?_eq_getElem (Nat.not_le.1 read)⟩
      by_cases far : pointerTarget c low ≥ msg.length
      · left
        simp only [decodeStep, readByte_eq_ok here, readByte_eq_ok next, bind, Except.bind, zero,
          (pointer_bits c).2 marked, read, far, if_false, if_true]
        rfl
      · exact .inr (.inr ⟨c, low, here, marked, next, Nat.not_le.1 far⟩)
  · have plain : ¬ c &&& 0xc0 = 0xc0 := by rwa [pointer_bits]
    by_cases bad : c &&& 0xc0 ≠ 0 ∨ c.toNat > msg.length - decoder.pos - 1
    · left
      simp only [decodeStep, readByte_eq_ok here, bind, Except.bind, zero, plain, bad, if_false,
        if_true]
      rfl
    · have whole := bad
      rw [ne_eq, label_bits] at whole
      have label : (labelAt msg decoder.pos c).length = c.toNat := by
        rw [labelAt, List.length_take, List.length_drop]
        omega
      by_cases room : c.toNat + (if decoder.outpos ≠ 0 then 1 else 0)
          ≥ decoder.out.length - decoder.outpos
      · left
        simp only [decodeStep, readByte_eq_ok here, bind, Except.bind, zero, plain, bad, room,
          if_false, if_true]
        rfl
      · refine .inr (.inl ⟨c, here, zero, by omega, by omega, ?_⟩)
        rw [holds.length_out, holds.outpos] at room
        rw [length_appendLabel, label]
        omega

end Holds

-----------------------------------------------------------------------------------------
-- Runs of the decoder
-----------------------------------------------------------------------------------------

section

variable {msg buffer : List UInt8}

/-- The decoder takes each name that fits, by induction on the name. -/
theorem decodeLoop_name {pos length : Nat} {path : List Nat} {labels : List (List UInt8)}
    (name : EncodedName msg pos path labels length)
    : ∀ {steps : Nat} {decoder : NameDecoder} {text : List UInt8},
        Holds decoder buffer text
        → decoder.pos = pos
        → path.length ≤ steps
        → (labels.foldl appendLabel text).length < buffer.length
        → decodeLoop msg steps decoder
          = .ok
              ((Holds.reached decoder length : Nat),
                labels.foldl appendLabel text
                  ++ 0 :: buffer.drop ((labels.foldl appendLabel text).length + 1)) := by
  induction name with
  | finish zero =>
      rintro steps decoder text holds rfl enough fits
      cases steps with
      | zero => exact absurd enough (Nat.not_succ_le_zero _)
      | succ steps =>
          rw [decodeLoop, if_pos (List.getElem?_eq_some_iff.1 zero).1, Holds.step_finish zero]
          simp only [holds.out, List.foldl_nil]
  | @label pos count path labels length here nonzero short inside rest ih =>
      rintro steps decoder text holds rfl enough fits
      rw [List.foldl_cons] at fits ⊢
      have now := Nat.lt_of_le_of_lt (length_le_foldl_appendLabel labels _) fits
      cases steps with
      | zero => exact absurd enough (Nat.not_succ_le_zero _)
      | succ steps =>
          have later := ih (Holds.behindLabel_holds now) rfl (Nat.le_of_succ_le_succ enough) fits
          rw [decodeLoop, if_pos (List.getElem?_eq_some_iff.1 here).1,
            holds.step_label here nonzero short inside now]
          dsimp only
          rw [later]
          have total
              : Holds.reached (Holds.behindLabel decoder msg buffer text count) length
                = Holds.reached decoder (count.toNat + 1 + length) := by
            unfold Holds.reached Holds.behindLabel Holds.reached
            dsimp only
            split <;> omega
          rw [total]
  | @pointer pos high low path labels length here marked next rest ih =>
      rintro steps decoder text holds rfl enough fits
      have inside : pointerTarget high low < msg.length := rest.inside _ rest.pos_mem
      cases steps with
      | zero => exact absurd enough (Nat.not_succ_le_zero _)
      | succ steps =>
          rw [decodeLoop, if_pos (List.getElem?_eq_some_iff.1 here).1,
            Holds.step_pointer here marked next inside]
          exact ih ⟨holds.out, holds.outpos, holds.fits⟩ rfl (Nat.le_of_succ_le_succ enough) fits

/-- The decoder stays in its arrays, and returns a length only where a name fits, by induction on
the steps.
-/
theorem decodeLoop_returns (steps : Nat)
    : ∀ {decoder : NameDecoder} {text : List UInt8},
        Holds decoder buffer text
        → ∃ result out,
            decodeLoop msg steps decoder = .ok (result, out)
            ∧ out.length = buffer.length
            ∧ (result ≠ -1
                → ∃ path labels length,
                    EncodedName msg decoder.pos path labels length
                    ∧ (labels.foldl appendLabel text).length < buffer.length) := by
  induction steps with
  | zero =>
      intro decoder text holds
      exact ⟨-1, decoder.out, rfl, holds.length_out, fun success => absurd rfl success⟩
  | succ steps ih =>
      intro decoder text holds
      by_cases inside : decoder.pos < msg.length
      · rw [decodeLoop, if_pos inside]
        obtain zero | failed | ⟨count, here, nonzero, short, whole, fits⟩
            | ⟨high, low, here, marked, next, target⟩ := holds.step_cases inside
        · rw [Holds.step_finish zero]
          exact ⟨_, _, rfl, holds.length_out, fun _ => ⟨_, _, _, .finish zero, holds.fits⟩⟩
        · rw [failed]
          exact ⟨-1, _, rfl, holds.length_out, fun success => absurd rfl success⟩
        · rw [holds.step_label here nonzero short whole fits]
          obtain ⟨result, out, run, size, sound⟩ := ih (Holds.behindLabel_holds fits)
          refine ⟨result, out, run, size, fun success => ?_⟩
          obtain ⟨path, labels, length, name, room⟩ := sound success
          exact ⟨_, _, _, .label here nonzero short whole name, room⟩
        · rw [Holds.step_pointer here marked next target]
          obtain ⟨result, out, run, size, sound⟩ :=
            @ih { decoder with
              consumed := Holds.reached decoder 2
              pos := pointerTarget high low
              jumped := true } text ⟨holds.out, holds.outpos, holds.fits⟩
          refine ⟨result, out, run, size, fun success => ?_⟩
          obtain ⟨path, labels, length, name, room⟩ := sound success
          exact ⟨_, _, _, .pointer here marked next name, room⟩
      · rw [decodeLoop, if_neg inside]
        exact ⟨-1, _, rfl, holds.length_out, fun success => absurd rfl success⟩

end

/-- The decoder starts with an empty text in the array. -/
theorem holds_start {out : List UInt8} (room : out.length ≠ 0) (pos : Nat)
    : writeByte out 0 0 = .ok (out.set 0 0)
      ∧ Holds { out := out.set 0 0, pos } out [] := by
  cases out with
  | nil => exact absurd rfl room
  | cons c rest => exact ⟨rfl, rfl, rfl, Nat.succ_pos _⟩

/-- Inside the packet, decoding runs the loop from an empty text. -/
theorem decodeDnsName_loop {msg out : List UInt8} {pos : Nat}
    (inside : ¬ (out.length = 0 ∨ (pos : Int) < 0 ∨ (pos : Int) ≥ msg.length))
    : decodeDnsName msg pos out = decodeLoop msg msg.length { out := out.set 0 0, pos }
      ∧ Holds { out := out.set 0 0, pos } out [] := by
  obtain ⟨cleared, holds⟩ := holds_start (fun empty => inside (.inl empty)) pos
  refine ⟨?_, holds⟩
  rw [decodeDnsName, if_neg inside, cleared]
  rfl

/-- A name that fits is decoded. -/
theorem decodeDnsName_name {msg out text : List UInt8} {offset : Int} {length : Nat}
    (name : NameAt msg offset text length) (fits : text.length < out.length)
    : decodeDnsName msg offset out = .ok (length, text ++ 0 :: out.drop (text.length + 1)) := by
  obtain ⟨pos, path, labels, rfl, name, -, rfl⟩ := name
  have inside := name.inside pos name.pos_mem
  obtain ⟨run, holds⟩ := @decodeDnsName_loop msg out pos (by omega)
  have joined := foldl_appendLabel name.labels_ne_nil
  rw [← joined] at fits ⊢
  rw [run, decodeLoop_name name holds rfl name.length_path_le fits]
  simp [Holds.reached]

/-- Decoding stays in its arrays, and returns a length only where a name fits. -/
theorem decodeDnsName_returns (msg : List UInt8) (offset : Int) (out : List UInt8)
    : ∃ result after,
        decodeDnsName msg offset out = .ok (result, after)
        ∧ after.length = out.length
        ∧ (result ≠ -1
          → ∃ text length, NameAt msg offset text length ∧ text.length < out.length) := by
  by_cases outside : out.length = 0 ∨ offset < 0 ∨ offset ≥ msg.length
  · exact
      ⟨-1, out, by rw [decodeDnsName, if_pos outside]; rfl, rfl, fun success => absurd rfl success⟩
  · obtain ⟨pos, rfl⟩ : ∃ pos : Nat, offset = pos := ⟨offset.toNat, by omega⟩
    obtain ⟨run, holds⟩ := decodeDnsName_loop outside
    obtain ⟨result, after, returned, size, sound⟩ := decodeLoop_returns msg.length holds
    rw [← run] at returned
    refine ⟨result, after, returned, size, fun success => ?_⟩
    obtain ⟨path, labels, length, name, fits⟩ := sound success
    have joined := foldl_appendLabel name.labels_ne_nil
    exact ⟨_, length, ⟨pos, path, labels, rfl, name, name.trail.nodup, rfl⟩, joined ▸ fits⟩

/-- Decoding stays in the packet and in the output. It succeeds if there is a name at the offset
that fits the output with its terminator; then it stores its text and returns its encoded length.
-/
theorem decode_dns_name_exact (msg : List UInt8) (offset : Int) (out : List UInt8)
    : ∃ result after,
        decodeDnsName msg offset out = .ok (result, after)
        ∧ after.length = out.length
        ∧ (result ≠ -1
            ↔ ∃ text length, NameAt msg offset text length ∧ text.length < out.length)
        ∧ ∀ text length,
            NameAt msg offset text length
            → text.length < out.length
            → result = length ∧ after = text ++ 0 :: out.drop (text.length + 1) := by
  obtain ⟨result, after, returned, size, sound⟩ := decodeDnsName_returns msg offset out
  have whole
      : ∀ text length,
          NameAt msg offset text length
          → text.length < out.length
          → result = length ∧ after = text ++ 0 :: out.drop (text.length + 1) := by
    intro text length name fits
    have same := returned.symm.trans (decodeDnsName_name name fits)
    exact Prod.ext_iff.1 (Except.ok.inj same)
  refine ⟨result, after, returned, size, ⟨sound, ?_⟩, whole⟩
  rintro ⟨text, length, name, fits⟩
  rw [(whole text length name fits).1]
  omega

end VitaMoonlight
