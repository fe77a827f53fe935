import VitaMoonlight.Input.ControllerInput
import VitaMoonlight.Library.CString
import Mathlib.Data.List.TakeWhile

/-! The file that maps the face buttons (`vita_input_load_mapping` in `moonlight/vita_input.c`): lines
that name a button of the console and, behind an equals sign, a button of the host.
-/

namespace VitaMoonlight

open Library

-----------------------------------------------------------------------------------------
-- Lines
-----------------------------------------------------------------------------------------

/-- The buttons that the file maps. -/
inductive MappedButton where
  | cross
  | circle
  | square
  | triangle
deriving DecidableEq

namespace MappedButton

def all : List MappedButton := [.cross, .circle, .square, .triangle]

def name : MappedButton → List UInt8
  | .cross => (CString.ofLiteral "cross").bytes
  | .circle => (CString.ofLiteral "circle").bytes
  | .square => (CString.ofLiteral "square").bytes
  | .triangle => (CString.ofLiteral "triangle").bytes

end MappedButton

namespace FaceButton

def all : List FaceButton := [.a, .b, .x, .y]

def letter : FaceButton → List UInt8
  | .a => (CString.ofLiteral "a").bytes
  | .b => (CString.ofLiteral "b").bytes
  | .x => (CString.ofLiteral "x").bytes
  | .y => (CString.ofLiteral "y").bytes

end FaceButton

namespace FaceMapping

def get (mapping : FaceMapping) : MappedButton → FaceButton
  | .cross => mapping.cross
  | .circle => mapping.circle
  | .square => mapping.square
  | .triangle => mapping.triangle

def set (mapping : FaceMapping) (button : MappedButton) (flag : FaceButton) : FaceMapping :=
  match button with
  | .cross => { mapping with cross := flag }
  | .circle => { mapping with circle := flag }
  | .square => { mapping with square := flag }
  | .triangle => { mapping with triangle := flag }

end FaceMapping

/-- The flag of the text behind the equals sign. -/
def faceFlag (value : List UInt8) : Option FaceButton :=
  if value = FaceButton.letter .a then some .a
  else if value = FaceButton.letter .b then some .b
  else if value = FaceButton.letter .x then some .x
  else if value = FaceButton.letter .y then some .y
  else none

/-- The button of the text in front of it gets the flag. -/
def FaceMapping.assign (mapping : FaceMapping) (name : List UInt8) (flag : FaceButton)
    : FaceMapping :=
  if name = MappedButton.name .cross then mapping.set .cross flag
  else if name = MappedButton.name .circle then mapping.set .circle flag
  else if name = MappedButton.name .square then mapping.set .square flag
  else if name = MappedButton.name .triangle then mapping.set .triangle flag
  else mapping

/-- The body of the loop behind the end of the line. -/
def readLine (mapping : FaceMapping) (line : List UInt8) : FaceMapping :=
  match line.findIdx? (· == 61) with
  | none => mapping
  | some eq =>
      if line.head? = some 35 then mapping
      else
        match faceFlag (line.drop (eq + 1)) with
        | none => mapping
        | some flag => mapping.assign (line.take eq) flag

/-- The loop, with as much fuel as there are bytes. -/
def loadLines : Nat → FaceMapping → List UInt8 → FaceMapping
  | 0, mapping, _ => mapping
  | fuel + 1, mapping, text =>
      if text.isEmpty then mapping
      else
        match text.findIdx? (· == 10) with
        | none => readLine mapping text
        | some next => loadLines fuel (readLine mapping (text.take next)) (text.drop (next + 1))

/-- The file that is written where there is none. -/
def defaultMappingFile : List UInt8 :=
  (CString.ofLiteral
    "# physical=moonlight face button (a b x y)\ncross=a\ncircle=b\nsquare=x\ntriangle=y\n").bytes

/-- `vita_input_load_mapping`, with what the file holds if it can be opened: the mapping, and the file
that is written if it cannot. A file that cannot be read holds nothing.
-/
def loadMapping (swapXo mappingEnabled : Bool) (file : Option (List UInt8))
    : FaceMapping × Option (List UInt8) :=
  if !mappingEnabled then (if swapXo then { cross := .b, circle := .a } else {}, none)
  else
    match file with
    | none => ({}, some defaultMappingFile)
    | some bytes =>
        let buffer := (bytes.take 1023).takeWhile (· ≠ 0)
        (loadLines buffer.length {} buffer, none)

-----------------------------------------------------------------------------------------
-- What a file says
-----------------------------------------------------------------------------------------

/-- The line that maps a button. -/
def assignmentLine (button : MappedButton) (flag : FaceButton) : List UInt8 :=
  button.name ++ 61 :: flag.letter

/-- What a line maps a button to. -/
def assigned (button : MappedButton) (line : List UInt8) : Option FaceButton :=
  FaceButton.all.find? fun flag => line = assignmentLine button flag

/-- The lines of the first 1023 bytes up to a NUL. -/
def fileLines (bytes : List UInt8) : List (List UInt8) :=
  ((bytes.take 1023).takeWhile (· ≠ 0)).splitOn 10

/-- What the last line for a button maps it to. -/
def lastAssigned (button : MappedButton) (lines : List (List UInt8)) : Option FaceButton :=
  lines.reverse.findSome? (assigned button)

/-- The file that tells a mapping. -/
def FaceMapping.file (mapping : FaceMapping) : List UInt8 :=
  MappedButton.all.flatMap fun button => assignmentLine button (mapping.get button) ++ [10]

-----------------------------------------------------------------------------------------
-- One line
-----------------------------------------------------------------------------------------

/-- The first place of a character splits a text. -/
theorem split_at_char {text : List UInt8} {char : UInt8} {place : Nat}
    (found : text.findIdx? (· == char) = some place)
    : text = text.take place ++ char :: text.drop (place + 1) ∧ char ∉ text.take place := by
  obtain ⟨inside, same, before⟩ := List.findIdx?_eq_some_iff_getElem.mp found
  have same : text[place] = char := eq_of_beq same
  constructor
  · calc
      text = text.take place ++ text.drop place := (List.take_append_drop place text).symm
      _ = text.take place ++ char :: text.drop (place + 1) := by
        rw [List.drop_eq_getElem_cons inside, same]
  · intro member
    obtain ⟨idx, earlier, at_idx⟩ := List.mem_take_iff_getElem.mp member
    exact before idx (by omega) (beq_iff_eq.mpr at_idx)

theorem faceFlag_eq_some {value : List UInt8} {flag : FaceButton} (found : faceFlag value = some flag)
    : value = flag.letter := by
  unfold faceFlag at found
  repeat
    split at found
    · rename_i same
      exact Option.some.inj found ▸ same
  contradiction

/-- An assignment changes the button with the name, if there is one. -/
theorem FaceMapping.assign_cases (mapping : FaceMapping) (name : List UInt8) (flag : FaceButton)
    : (∃ button, name = MappedButton.name button) ∨ mapping.assign name flag = mapping := by
  unfold FaceMapping.assign
  repeat
    split
    · exact .inl ⟨_, by assumption⟩
  exact .inr rfl

theorem readLine_assignmentLine (mapping : FaceMapping) (button : MappedButton) (flag : FaceButton)
    : readLine mapping (assignmentLine button flag) = mapping.set button flag := by
  cases button <;> cases flag <;> rfl

/-- A line maps a button or changes nothing. -/
theorem readLine_cases (mapping : FaceMapping) (line : List UInt8)
    : (∃ button flag, line = assignmentLine button flag ∧ readLine mapping line = mapping.set button flag)
      ∨ (∀ button flag, line ≠ assignmentLine button flag) ∧ readLine mapping line = mapping := by
  by_cases known : ∃ button flag, line = assignmentLine button flag
  · obtain ⟨button, flag, rfl⟩ := known
    exact .inl ⟨button, flag, rfl, readLine_assignmentLine mapping button flag⟩
  · refine .inr ⟨fun button flag same => known ⟨button, flag, same⟩, ?_⟩
    rw [readLine]
    split
    · rfl
    · rename_i place found
      split
      · rfl
      · split
        · rfl
        · rename_i flag flagged
          obtain ⟨button, named⟩ | same := mapping.assign_cases (line.take place) flag
          · have whole := (split_at_char found).1
            rw [named, faceFlag_eq_some flagged] at whole
            exact absurd ⟨button, flag, whole⟩ known
          · exact same

theorem FaceMapping.get_set (mapping : FaceMapping) (button other : MappedButton) (flag : FaceButton)
    : (mapping.set button flag).get other = if button = other then flag else mapping.get other := by
  cases button <;> cases other <;> rfl

theorem assigned_assignmentLine (button other : MappedButton) (flag : FaceButton)
    : assigned other (assignmentLine button flag) = if button = other then some flag else none := by
  cases button <;> cases other <;> cases flag <;> rfl

/-- A line maps a button to what it says, and leaves it if it says nothing. -/
theorem get_readLine (mapping : FaceMapping) (line : List UInt8) (button : MappedButton)
    : (readLine mapping line).get button = (assigned button line).getD (mapping.get button) := by
  obtain ⟨other, flag, rfl, read⟩ | ⟨unknown, read⟩ := readLine_cases mapping line
  · rw [read, FaceMapping.get_set, assigned_assignmentLine]
    split
    · rfl
    · rfl
  · have nothing : assigned button line = none :=
      List.find?_eq_none.mpr fun flag _ same => unknown button flag (of_decide_eq_true same)
    rw [read, nothing]
    rfl

-----------------------------------------------------------------------------------------
-- All lines
-----------------------------------------------------------------------------------------

/-- The last line for a button counts, by induction on the lines. -/
theorem get_foldl_readLine (lines : List (List UInt8)) (mapping : FaceMapping) (button : MappedButton)
    : (lines.foldl readLine mapping).get button
      = (lastAssigned button lines).getD (mapping.get button) := by
  induction lines generalizing mapping with
  | nil => rfl
  | cons line rest ih =>
      rw [List.foldl_cons, ih, get_readLine, lastAssigned, lastAssigned, List.reverse_cons,
        List.findSome?_append]
      cases rest.reverse.findSome? (assigned button) with
      | some flag => rfl
      | none => cases said : assigned button line <;> simp [said]

/-- The loop goes over the lines, by induction on the fuel. -/
theorem loadLines_eq {fuel : Nat} {text : List UInt8} (enough : text.length ≤ fuel)
    (mapping : FaceMapping)
    : loadLines fuel mapping text = (text.splitOn 10).foldl readLine mapping := by
  induction fuel generalizing text mapping with
  | zero =>
      obtain rfl := List.length_eq_zero_iff.mp (Nat.le_zero.mp enough)
      rfl
  | succ fuel ih =>
      rw [loadLines]
      split
      · rename_i empty
        obtain rfl := List.isEmpty_iff.mp empty
        rfl
      · split
        · rename_i without
          have absent : 10 ∉ text := by
            intro member
            exact absurd (List.findIdx?_eq_none_iff.mp without 10 member) (by decide)
          rw [List.splitOn_eq_singleton absent]
          rfl
        · rename_i next found
          obtain ⟨whole, absent⟩ := split_at_char found
          have inside := (List.findIdx?_eq_some_iff_getElem.mp found).1
          rw [ih (by rw [List.length_drop]; omega)]
          conv_rhs => rw [whole]
          rw [List.splitOn_append_cons_self, List.splitOn_eq_singleton absent]
          rfl

/-- What is loaded from a file. -/
theorem loadMapping_file (swapXo : Bool) (bytes : List UInt8)
    : (loadMapping swapXo true (some bytes)).1 = (fileLines bytes).foldl readLine {} :=
  loadLines_eq (Nat.le_refl _) {}

/-- A line for a button has neither a line feed nor a NUL, and is short. -/
theorem assignmentLine_plain (button : MappedButton) (flag : FaceButton)
    : 10 ∉ assignmentLine button flag
      ∧ (assignmentLine button flag).all (· ≠ 0) = true
      ∧ (assignmentLine button flag).length ≤ 10 := by
  cases button <;> cases flag <;> decide

/-- The lines of the file that tells a mapping. -/
theorem fileLines_file (mapping : FaceMapping)
    : fileLines mapping.file
      = MappedButton.all.map (fun button => assignmentLine button (mapping.get button)) ++ [[]] := by
  have short : mapping.file.length ≤ 1023 := by
    have line (button : MappedButton) := (assignmentLine_plain button (mapping.get button)).2.2
    have cross := line .cross
    have circle := line .circle
    have square := line .square
    have triangle := line .triangle
    simp only [FaceMapping.file, MappedButton.all, List.flatMap_cons, List.flatMap_nil,
      List.length_append, List.length_cons, List.length_nil]
    omega
  have plain : ∀ byte ∈ mapping.file, decide (byte ≠ 0) = true := by
    intro byte member
    obtain ⟨button, -, member⟩ := List.mem_flatMap.mp member
    obtain inside | last := List.mem_append.mp member
    · exact List.all_eq_true.mp (assignmentLine_plain button (mapping.get button)).2.1 byte inside
    · obtain rfl := List.mem_singleton.mp last
      decide
  rw [fileLines, List.take_of_length_le short, List.takeWhile_eq_self_iff.mpr plain]
  simp only [FaceMapping.file, MappedButton.all, List.flatMap_cons, List.flatMap_nil,
    List.append_assoc, List.nil_append, List.append_nil,
    List.splitOn_append_cons_self, List.splitOn_eq_singleton (assignmentLine_plain _ _).1,
    List.splitOn_nil, List.map_cons, List.map_nil, List.cons_append]

-----------------------------------------------------------------------------------------
-- Files
-----------------------------------------------------------------------------------------

/-- From any file each button gets what the last line for it says, and its default if none does; the
file that tells a mapping gives the mapping; and the file that is written where there is none gives the
mapping that was in effect when it was written.
-/
theorem mapping_file_read (swapXo : Bool)
    : (∀ bytes button,
        (loadMapping swapXo true (some bytes)).1.get button
        = (lastAssigned button (fileLines bytes)).getD (FaceMapping.get {} button))
      ∧ (∀ mapping : FaceMapping, (loadMapping swapXo true (some mapping.file)).1 = mapping)
      ∧ ∀ written,
          (loadMapping swapXo true none).2 = some written
          → (loadMapping swapXo true (some written)).1 = (loadMapping swapXo true none).1 := by
  refine ⟨fun bytes button => ?_, fun mapping => ?_, fun written told => ?_⟩
  · rw [loadMapping_file, get_foldl_readLine]
  · rw [loadMapping_file, fileLines_file]
    simp only [MappedButton.all, List.map_cons, List.map_nil, List.cons_append, List.nil_append,
      List.foldl_cons, List.foldl_nil, readLine_assignmentLine]
    cases mapping
    rfl
  · obtain rfl := Option.some.inj told
    rfl

end VitaMoonlight
