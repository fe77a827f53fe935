import VitaMoonlight.Library.CText
import Mathlib.Data.List.DropRight

/-! The vendored ini reader (`third_party/inih/ini.c`) with the settings the build leaves at
their defaults: lines of at most 200 bytes on the stack, multi-line values, a skipped byte
order mark, `;` for inline comments, `;` and `#` for whole-line comments, and no stop at
the first error.
-/

namespace VitaMoonlight.Inih

open Library Library.CText

/-- `INI_MAX_LINE`. -/
def maxLine : Nat := 200

/-- `MAX_SECTION`. -/
def maxSection : Nat := 50

/-- `MAX_NAME`. -/
def maxName : Nat := 50

/-- What `fgets` stores for a buffer of `count + 1` bytes, and what the file still holds. -/
def fgets : Nat → List UInt8 → List UInt8 × List UInt8
  | 0, bytes => ([], bytes)
  | _, [] => ([], [])
  | count + 1, c :: rest =>
      if c = newline then ([c], rest)
      else
        let (chunk, left) := fgets count rest
        (c :: chunk, left)

/-- Consume the rest of a line that was too long, in pieces of 15 bytes. The first
argument bounds the pieces; the number of bytes left is enough.
-/
def discardLine : Nat → List UInt8 → List UInt8
  | 0, bytes => bytes
  | fuel + 1, bytes =>
      if bytes.isEmpty then bytes
      else
        let (chunk, rest) := fgets 15 bytes
        if (chunk.takeWhile (· ≠ 0)).getLast? = some newline then rest
        else discardLine fuel rest

-----------------------------------------------------------------------------------------
-- Reading one line
-----------------------------------------------------------------------------------------

/-- `ini_rstrip`. -/
def rstrip (text : List UInt8) : List UInt8 := text.rdropWhile isSpace

/-- `ini_lskip`. -/
def lskip (text : List UInt8) : List UInt8 := text.dropWhile isSpace

/-- `ini_find_chars_or_comment`: the text before and from the found position. -/
def findCharsOrComment (chars : List UInt8) : Bool → List UInt8 → List UInt8 × List UInt8
  | _, [] => ([], [])
  | wasSpace, c :: rest =>
      if chars.contains c || (wasSpace && c == semicolon) then ([], c :: rest)
      else
        let (before, found) := findCharsOrComment chars (isSpace c) rest
        (c :: before, found)

/-- The text before an inline comment. -/
def beforeComment (text : List UInt8) : List UInt8 := (findCharsOrComment [] false text).1

/-- A handler takes the section, the name and the value; `false` reports an error. -/
abbrev Handler (User : Type) := User → CString → CString → CString → User × Bool

/-- The locals of `ini_parse_stream`. -/
structure ParseState (User : Type) where
  user : User
  currentSection : List UInt8 := []
  prevName : List UInt8 := []
  lineno : Nat := 0
  error : Nat := 0

variable {User : Type}

/-- Record an error at the current line unless an earlier line has one. -/
def ParseState.fail (state : ParseState User) : ParseState User :=
  { state with error := if state.error = 0 then state.lineno else state.error }

/-- `HANDLER(user, section, name, value)` and the check of its result. -/
def ParseState.call (handler : Handler User) (state : ParseState User)
    (name value : List UInt8)
    : ParseState User :=
  let (user, accepted) :=
    handler state.user (.ofBytes state.currentSection) (.ofBytes name) (.ofBytes value)
  let after := { state with user }
  if accepted then after else after.fail

/-- Skip a byte order mark on the first line. -/
def skipBom (lineno : Nat) (line : List UInt8) : List UInt8 :=
  if lineno = 1 then
    match line with
    | 0xEF :: 0xBB :: 0xBF :: rest => rest
    | _ => line
  else line

/-- The body of the loop of `ini_parse_stream` once a line has been read. -/
def parseLine (handler : Handler User) (state : ParseState User) (line : List UInt8)
    : ParseState User :=
  let skipped := lskip (skipBom state.lineno line)
  let start := rstrip skipped
  match start with
  | [] => state
  | first :: rest =>
      if first = semicolon ∨ first = 35 then state
      else if state.prevName ≠ [] ∧ skipped.length < line.length then
        state.call handler state.prevName (rstrip (beforeComment start))
      else if first = 91 then
        let (name, found) := findCharsOrComment [93] false rest
        match found with
        | 93 :: _ =>
            { state with currentSection := name.take (maxSection - 1), prevName := [] }
        | _ => state.fail
      else
        let (before, found) := findCharsOrComment [61, 58] false start
        match found with
        | separator :: value =>
            if separator = 61 ∨ separator = 58 then
              let name := rstrip before
              let value := rstrip (lskip (beforeComment value))
              { state with prevName := name.take (maxName - 1) }.call handler name value
            else state.fail
        | [] => state.fail

/-- The loop of `ini_parse_stream` over the bytes still in the file. The first argument
bounds the lines; the number of bytes is enough (`parseLoop_fuel`).
-/
def parseLoop (handler : Handler User) : Nat → List UInt8 → ParseState User → ParseState User
  | 0, _, state => state
  | fuel + 1, bytes, state =>
      if bytes.isEmpty then state
      else
        let (chunk, rest) := fgets (maxLine - 1) bytes
        let line := chunk.takeWhile (· ≠ 0)
        let numbered := { state with lineno := state.lineno + 1 }
        if line.length = maxLine - 1 ∧ line.getLast? ≠ some newline then
          let reported := if rest.isEmpty then numbered else numbered.fail
          parseLoop handler fuel (discardLine rest.length rest) (parseLine handler reported line)
        else parseLoop handler fuel rest (parseLine handler numbered line)

/-- `ini_parse`: -1 when the file cannot be opened, else the first line with an error. -/
def iniParse (handler : Handler User) (file : Option (List UInt8)) (user : User)
    : User × Int :=
  match file with
  | none => (user, -1)
  | some bytes =>
      let final := parseLoop handler bytes.length bytes { user }
      (final.user, final.error)

-----------------------------------------------------------------------------------------
-- Lines as the reader delivers them
-----------------------------------------------------------------------------------------

/-- Reading splits the file. Witness: each byte goes to one side, by induction on the
buffer.
-/
theorem fgets_append (count : Nat) (bytes : List UInt8)
    : (fgets count bytes).1 ++ (fgets count bytes).2 = bytes := by
  induction count, bytes using fgets.induct with
  | case1 bytes => simp [fgets]
  | case2 count positive => cases count <;> simp [fgets]
  | case3 count rest => simp [fgets]
  | case4 count c rest notNewline chunk left split ih => simp [fgets, notNewline, ih]

/-- A newline only ends what was read. -/
theorem newline_notMem_dropLast_fgets (count : Nat) (bytes : List UInt8)
    : newline ∉ (fgets count bytes).1.dropLast := by
  induction count, bytes using fgets.induct with
  | case1 bytes => simp [fgets]
  | case2 count positive => cases count <;> simp [fgets]
  | case3 count rest => simp [fgets]
  | case4 count c rest notNewline chunk left split ih =>
      simp only [fgets, notNewline, if_false]
      cases stored : (fgets count rest).1 with
      | nil => simp
      | cons next more =>
          rw [stored] at ih
          simp only [List.dropLast_cons_cons, List.mem_cons, not_or]
          exact ⟨fun same => notNewline same.symm, ih⟩

/-- Reading a whole line of a file that continues. -/
theorem fgets_line {count : Nat} {line rest : List UInt8} (plain : newline ∉ line)
    (fits : line.length < count)
    : fgets count (line ++ newline :: rest) = (line ++ [newline], rest) := by
  induction line generalizing count with
  | nil =>
      cases count with
      | zero => simp at fits
      | succ count => simp [fgets]
  | cons c line ih =>
      cases count with
      | zero => simp at fits
      | succ count =>
          simp only [List.mem_cons, not_or] at plain
          simp only [List.length_cons, Nat.add_lt_add_iff_right] at fits
          simp [fgets, Ne.symm plain.1, ih plain.2 fits]

/-- Reading from a line that fills the buffer stops in its middle. -/
theorem fgets_long {count : Nat} {line rest : List UInt8} (plain : newline ∉ line)
    (long : count ≤ line.length)
    : fgets count (line ++ rest) = (line.take count, line.drop count ++ rest) := by
  induction line generalizing count with
  | nil =>
      have none : count = 0 := by simpa using long
      subst none
      simp [fgets]
  | cons c line ih =>
      cases count with
      | zero => simp [fgets]
      | succ count =>
          simp only [List.mem_cons, not_or] at plain
          simp only [List.length_cons, Nat.add_le_add_iff_right] at long
          simp [fgets, Ne.symm plain.1, ih plain.2 long]

theorem fgets_length_lt {count : Nat} {bytes : List UInt8} (some : bytes ≠ [])
    : (fgets (count + 1) bytes).2.length < bytes.length := by
  have split := congrArg List.length (fgets_append (count + 1) bytes)
  have stored : (fgets (count + 1) bytes).1 ≠ [] := by
    cases bytes with
    | nil => exact absurd rfl some
    | cons c rest =>
        simp only [fgets]
        split <;> simp
  have positive := List.length_pos_iff.mpr stored
  rw [List.length_append] at split
  omega

theorem discardLine_length_le (fuel : Nat) (bytes : List UInt8)
    : (discardLine fuel bytes).length ≤ bytes.length := by
  induction fuel generalizing bytes with
  | zero => simp [discardLine]
  | succ fuel ih =>
      simp only [discardLine]
      split
      · exact le_refl _
      · rename_i nonempty
        have shorter : (fgets 15 bytes).2.length < bytes.length :=
          fgets_length_lt (by simpa using nonempty)
        split
        · exact shorter.le
        · exact (ih _).trans shorter.le

/-- The bound of the loop never cuts it short: every iteration reads at least one byte.
Witness: induction on the first bound, both loops take the same branch.
-/
theorem parseLoop_fuel (handler : Handler User) {first second : Nat} {bytes : List UInt8}
    (enough : bytes.length ≤ first) (alsoEnough : bytes.length ≤ second)
    (state : ParseState User)
    : parseLoop handler first bytes state = parseLoop handler second bytes state := by
  induction first generalizing second bytes state with
  | zero =>
      have none : bytes = [] := List.length_eq_zero_iff.mp (Nat.le_zero.mp enough)
      subst none
      cases second <;> simp [parseLoop]
  | succ first ih =>
      cases bytes with
      | nil => cases second <;> simp [parseLoop]
      | cons c bytes =>
          cases second with
          | zero => simp at alsoEnough
          | succ second =>
              have shorter : (fgets (maxLine - 1) (c :: bytes)).2.length < (c :: bytes).length :=
                fgets_length_lt (by simp)
              have discarded := discardLine_length_le
                (fgets (maxLine - 1) (c :: bytes)).2.length (fgets (maxLine - 1) (c :: bytes)).2
              simp only [parseLoop, List.isEmpty_cons, Bool.false_eq_true, if_false]
              split
              · exact ih (by omega) (by omega) _
              · exact ih (by omega) (by omega) _

-----------------------------------------------------------------------------------------
-- Stripping
-----------------------------------------------------------------------------------------

/-- Only the last byte of the text may be a newline. -/
def OneLine (text : List UInt8) : Prop := newline ∉ text.dropLast

theorem OneLine.of_prefix {text whole : List UInt8} (oneLine : OneLine whole)
    (initial : text <+: whole)
    : OneLine text := by
  obtain ⟨rest, rfl⟩ := initial
  cases rest with
  | nil => simpa using oneLine
  | cons c rest =>
      rw [OneLine, List.dropLast_append_cons, List.mem_append, not_or] at oneLine
      exact fun member => oneLine.1 ((List.dropLast_sublist text).subset member)

theorem OneLine.of_suffix {text whole : List UInt8} (oneLine : OneLine whole)
    (final : text <:+ whole)
    : OneLine text := by
  obtain ⟨first, rfl⟩ := final
  cases text with
  | nil => simp [OneLine]
  | cons c text =>
      rw [OneLine, List.dropLast_append_cons, List.mem_append, not_or] at oneLine
      exact oneLine.2

theorem rstrip_initial (text : List UInt8) : rstrip text <+: text :=
  List.rdropWhile_prefix _ _

theorem lskip_final (text : List UInt8) : lskip text <:+ text :=
  List.dropWhile_suffix _

/-- Stripping a line removes its newline. Witness: the newline is blank and last. -/
theorem OneLine.newline_notMem_rstrip {text : List UInt8} (oneLine : OneLine text)
    : newline ∉ rstrip text := by
  rcases List.eq_nil_or_concat text with rfl | ⟨front, last, rfl⟩
  · simp [rstrip]
  · simp only [List.concat_eq_append] at oneLine ⊢
    simp only [OneLine, List.dropLast_append_cons, List.dropLast_singleton,
      List.append_nil] at oneLine
    cases blank : isSpace last with
    | true =>
        rw [rstrip, List.rdropWhile_concat_pos _ _ _ blank]
        exact fun member => oneLine ((rstrip_initial front).subset member)
    | false =>
        rw [rstrip, List.rdropWhile_concat_neg _ _ _ (by simp [blank])]
        simp only [List.mem_append, List.mem_singleton, not_or]
        exact ⟨oneLine, by rintro rfl; simp at blank⟩

/-- A byte that is not blank ends the stripping. -/
theorem rstrip_append_cons {front text : List UInt8} {c : UInt8} (visible : isSpace c = false)
    : rstrip (front ++ c :: text) = front ++ c :: rstrip text := by
  induction text using List.reverseRecOn with
  | nil => rw [rstrip, List.rdropWhile_concat_neg _ _ _ (by simp [visible])]; rfl
  | append_singleton text last ih =>
      cases blank : isSpace last with
      | true =>
          rw [← List.cons_append, ← List.append_assoc, rstrip,
            List.rdropWhile_concat_pos _ _ _ blank, ← rstrip, ih, rstrip, rstrip,
            List.rdropWhile_concat_pos _ _ _ blank]
      | false =>
          rw [← List.cons_append, ← List.append_assoc, rstrip,
            List.rdropWhile_concat_neg _ _ _ (by simp [blank]), rstrip,
            List.rdropWhile_concat_neg _ _ _ (by simp [blank])]
          simp

theorem rstrip_concat_newline (text : List UInt8)
    : rstrip (text ++ [newline]) = rstrip text :=
  List.rdropWhile_concat_pos _ _ _ rfl

/-- The found position splits the text. -/
theorem findCharsOrComment_append (chars : List UInt8) (wasSpace : Bool) (text : List UInt8)
    : (findCharsOrComment chars wasSpace text).1 ++ (findCharsOrComment chars wasSpace text).2
      = text := by
  induction text generalizing wasSpace with
  | nil => rfl
  | cons c text ih =>
      simp only [findCharsOrComment]
      split
      · rfl
      · simp [ih]

theorem beforeComment_initial (text : List UInt8) : beforeComment text <+: text :=
  ⟨_, findCharsOrComment_append [] false text⟩

-----------------------------------------------------------------------------------------
-- What the handler sees
-----------------------------------------------------------------------------------------

/-- The value the reader extracts from what follows `key =` on a line. -/
def pairValue (text : List UInt8) : List UInt8 :=
  rstrip (lskip (beforeComment (rstrip (32 :: text))))

/-- A byte with no meaning of its own to the reader. -/
def isKeyByte (c : UInt8) : Bool :=
  !isSpace c && !(List.contains [0, 35, 58, semicolon, 61, 91, 0xEF] c)

/-- A key that no line is misread for. -/
def PlainKey (key : List UInt8) : Prop := key ≠ [] ∧ ∀ c ∈ key, isKeyByte c = true

instance (key : List UInt8) : Decidable (PlainKey key) :=
  decidable_of_iff (key ≠ [] ∧ key.all isKeyByte = true) (by simp [PlainKey])

/-- No value holds a newline. -/
theorem newline_notMem_pairValue {text : List UInt8} (oneLine : OneLine text)
    : newline ∉ pairValue text := by
  have whole : OneLine (32 :: text) := by
    cases text with
    | nil => simp [OneLine]
    | cons c text =>
        simp only [OneLine, List.dropLast_cons_cons, List.mem_cons, not_or]
        exact ⟨by decide, oneLine⟩
  intro member
  have inComment := (lskip_final _).subset ((rstrip_initial _).subset member)
  exact whole.newline_notMem_rstrip ((beforeComment_initial _).subset inComment)

/-- The reader never lengthens a value: it drops at least the blank before it. -/
theorem length_pairValue_le (text : List UInt8) : (pairValue text).length ≤ text.length := by
  have cut := (beforeComment_initial (rstrip (32 :: text))).trans (rstrip_initial _)
  cases before : beforeComment (rstrip (32 :: text)) with
  | nil =>
      rw [pairValue, before]
      exact Nat.zero_le _
  | cons blank rest =>
      rw [before] at cut
      obtain ⟨rfl, within⟩ := List.cons_prefix_cons.mp cut
      have skipped : lskip (32 :: rest) = lskip rest := List.dropWhile_cons_of_pos rfl
      rw [pairValue, before, skipped]
      calc
        (rstrip (lskip rest)).length ≤ (lskip rest).length := (rstrip_initial _).length_le
        _ ≤ rest.length := (lskip_final _).length_le
        _ ≤ text.length := within.length_le

theorem pairValue_concat_newline (text : List UInt8)
    : pairValue (text ++ [newline]) = pairValue text := by
  rw [pairValue, ← List.cons_append, rstrip_concat_newline]
  rfl

/-- The search for a separator runs over a plain key and the blank after it. -/
theorem findCharsOrComment_key {key : List UInt8} (plain : ∀ c ∈ key, isKeyByte c = true)
    (wasSpace : Bool) (text : List UInt8)
    : findCharsOrComment [61, 58] wasSpace (key ++ 32 :: 61 :: text)
      = (key ++ [32], 61 :: text) := by
  induction key generalizing wasSpace with
  | nil => simp [findCharsOrComment, semicolon]
  | cons c key ih =>
      have keyByte := plain c (by simp)
      simp only [isKeyByte, List.contains_cons, List.contains_nil, Bool.or_false, Bool.not_or,
        Bool.and_eq_true, Bool.not_eq_true', beq_eq_false_iff_ne] at keyByte
      simp only [List.cons_append, findCharsOrComment, List.contains_cons, List.contains_nil]
      rw [if_neg (by simp [keyByte]), ih fun other member => plain other (by simp [member])]

/-- A line `key = text` calls the handler once, with the extracted value. -/
theorem parseLine_pair (handler : Handler User) (state : ParseState User) {key : List UInt8}
    (plain : PlainKey key) (text : List UInt8)
    : parseLine handler state (key ++ 32 :: 61 :: 32 :: text)
      = { state with prevName := key.take (maxName - 1) }.call handler key (pairValue text) := by
  obtain ⟨some, bytes⟩ := plain
  cases key with
  | nil => exact absurd rfl some
  | cons first rest =>
      have firstByte := bytes first (by simp)
      simp only [isKeyByte, List.contains_cons, List.contains_nil, Bool.or_false, Bool.not_or,
        Bool.and_eq_true, Bool.not_eq_true', beq_eq_false_iff_ne] at firstByte
      have noBom
          : skipBom state.lineno (first :: rest ++ 32 :: 61 :: 32 :: text)
            = first :: rest ++ 32 :: 61 :: 32 :: text := by
        simp only [skipBom, List.cons_append]
        split
        · split
          · rename_i same
            exact absurd (List.cons.inj same).1 (by simp [firstByte])
          · rfl
        · rfl
      have noSkip
          : lskip (first :: rest ++ 32 :: 61 :: 32 :: text)
            = first :: rest ++ 32 :: 61 :: 32 :: text :=
        List.dropWhile_cons_of_neg (by simp [firstByte.1])
      have stripped
          : rstrip (first :: rest ++ 32 :: 61 :: 32 :: text)
            = first :: rest ++ 32 :: 61 :: rstrip (32 :: text) := by
        have visible
            : rstrip ((first :: rest ++ [32]) ++ 61 :: 32 :: text)
              = (first :: rest ++ [32]) ++ 61 :: rstrip (32 :: text) :=
          rstrip_append_cons rfl
        simpa using visible
      have named : rstrip (first :: rest ++ [32]) = first :: rest := by
        rw [rstrip, List.rdropWhile_concat_pos _ _ _ rfl, List.rdropWhile_eq_self_iff]
        intro nonempty
        have last := bytes _ (List.getLast_mem nonempty)
        simp only [isKeyByte, Bool.and_eq_true, Bool.not_eq_true'] at last
        simp [last.1]
      simp only [parseLine, noBom, noSkip, stripped]
      rw [List.cons_append]
      simp only [firstByte, or_self, if_false, lt_irrefl, and_false]
      rw [← List.cons_append, findCharsOrComment_key bytes]
      simp only [true_or, if_true, named, pairValue]

/-- A property of the user data that the handler keeps for values on one line is kept by
every line.
-/
theorem parseLine_preserves {holds : User → Prop} {handler : Handler User}
    (kept
      : ∀ user currentSection name value,
          holds user
          → newline ∉ value.bytes
          → holds (handler user currentSection name value).1)
    {state : ParseState User} (before : holds state.user) {line : List UInt8}
    (oneLine : OneLine line)
    : holds (parseLine handler state line).user := by
  have called
      : ∀ (state : ParseState User) name value,
          holds state.user → newline ∉ value → holds (state.call handler name value).user := by
    intro state name value before plain
    have after := kept state.user (.ofBytes state.currentSection) (.ofBytes name)
      (.ofBytes value) before fun member => plain ((List.takeWhile_prefix _).subset member)
    simp only [ParseState.call]
    split <;> exact after
  have skipped : skipBom state.lineno line <:+ line := by
    simp only [skipBom]
    split
    · split
      · exact ⟨[0xEF, 0xBB, 0xBF], rfl⟩
      · exact List.suffix_rfl
    · exact List.suffix_rfl
  have plain : newline ∉ rstrip (lskip (skipBom state.lineno line)) :=
    (oneLine.of_suffix ((lskip_final _).trans skipped)).newline_notMem_rstrip
  simp only [parseLine]
  split
  · exact before
  · split
    · exact before
    · split
      · refine called _ _ _ before fun member => plain ?_
        exact (beforeComment_initial _).subset ((rstrip_initial _).subset member)
      · split
        · split <;> exact before
        · split
          · rename_i separator value found
            split
            · refine called _ _ _ before fun member => ?_
              have inValue := (beforeComment_initial _).subset
                ((lskip_final _).subset ((rstrip_initial _).subset member))
              have inFound : newline ∈ separator :: value := by simp [inValue]
              rw [← found] at inFound
              apply plain
              rw [← findCharsOrComment_append [61, 58] false (rstrip _)]
              exact List.mem_append_right _ inFound
            · exact before
          · exact before

-----------------------------------------------------------------------------------------
-- Values that survive a line
-----------------------------------------------------------------------------------------

/-- The values the reader hands over unchanged. -/
structure PlainValue (text : List UInt8) : Prop where
  oneLine : newline ∉ text
  first : ∀ c ∈ text.head?, isSpace c = false ∧ c ≠ semicolon
  last : ∀ c ∈ text.getLast?, isSpace c = false
  noComment
    : ∀ front blank rest, text = front ++ blank :: semicolon :: rest → isSpace blank = false

/-- The search passes the whole text when no blank stands before a semicolon, by induction
on the text.
-/
theorem findCharsOrComment_eq_self (wasSpace : Bool) (text : List UInt8)
    : (findCharsOrComment [] wasSpace text).1 = text
      ↔ (wasSpace = true → text.head? ≠ some semicolon)
        ∧ ∀ front blank rest, text = front ++ blank :: semicolon :: rest
          → isSpace blank = false := by
  induction text generalizing wasSpace with
  | nil => simp [findCharsOrComment]
  | cons c text ih =>
      by_cases stops : wasSpace = true ∧ c = semicolon
      · simp [findCharsOrComment, stops]
      · have passes : ¬(([] : List UInt8).contains c || (wasSpace && c == semicolon)) = true := by
          simpa using stops
        simp only [findCharsOrComment, if_neg passes, List.cons.injEq, true_and, ih,
          List.head?_cons, ne_eq, Option.some.injEq]
        constructor
        · rintro ⟨next, later⟩
          refine ⟨fun was same => stops ⟨was, same⟩, ?_⟩
          intro front blank rest split
          cases front with
          | nil =>
              obtain ⟨rfl, rfl⟩ := List.cons.inj split
              by_contra space
              exact next (by simpa using space) rfl
          | cons other front => exact later front blank rest (List.cons.inj split).2
        · rintro ⟨-, adjacent⟩
          refine ⟨fun space same => ?_, fun front blank rest split => ?_⟩
          · cases text with
            | nil => simp at same
            | cons next text =>
                obtain rfl : next = semicolon := by simpa using same
                have notSpace := adjacent [] c text rfl
                simp [notSpace] at space
          · exact adjacent (c :: front) blank rest (by rw [split]; rfl)

/-- Stripping neither end leaves both ends visible. -/
theorem rstrip_eq_self_iff (text : List UInt8)
    : rstrip text = text ↔ ∀ c ∈ text.getLast?, isSpace c = false := by
  rw [rstrip, List.rdropWhile_eq_self_iff]
  constructor
  · intro visible c last
    obtain ⟨nonempty, rfl⟩ := List.mem_getLast?_eq_getLast last
    simpa using visible nonempty
  · intro visible nonempty
    simpa using visible _ (List.getLast_mem_getLast? nonempty)

theorem lskip_eq_self_iff (text : List UInt8)
    : lskip text = text ↔ ∀ c ∈ text.head?, isSpace c = false := by
  cases text with
  | nil => simp [lskip]
  | cons c text =>
      rw [lskip, List.dropWhile_eq_self_iff]
      simp

/-- Exactly the plain values survive. Witness: the reader only ever cuts, so a value of
unchanged length was cut nowhere.
-/
theorem pairValue_eq_self_iff {text : List UInt8} (oneLine : newline ∉ text)
    : pairValue text = text ↔ PlainValue text := by
  cases text with
  | nil => exact ⟨fun _ => ⟨oneLine, by simp, by simp, by simp⟩, fun _ => rfl⟩
  | cons c text =>
      have notFirst : ∀ text, lskip (32 :: text) = lskip text := fun text =>
        List.dropWhile_cons_of_pos rfl
      constructor
      · intro same
        have cut := (beforeComment_initial (rstrip (32 :: c :: text))).trans (rstrip_initial _)
        have kept : beforeComment (rstrip (32 :: c :: text)) = 32 :: c :: text := by
          cases before : beforeComment (rstrip (32 :: c :: text)) with
          | nil =>
              rw [pairValue, before] at same
              cases same
          | cons blank rest =>
              rw [before] at cut
              obtain ⟨rfl, within⟩ := List.cons_prefix_cons.mp cut
              rw [pairValue, before, notFirst] at same
              have short := (rstrip_initial (lskip rest)).length_le
              have shorter := (lskip_final rest).length_le
              rw [same] at short
              rw [within.eq_of_length_le (short.trans shorter)]
        have stripped : rstrip (32 :: c :: text) = 32 :: c :: text :=
          (rstrip_initial _).eq_of_length_le (by
            have := (beforeComment_initial (rstrip (32 :: c :: text))).length_le
            rwa [kept] at this)
        rw [pairValue, kept, notFirst] at same
        have leading : lskip (c :: text) = c :: text :=
          (lskip_final _).eq_of_length_le (by
            have := (rstrip_initial (lskip (c :: text))).length_le
            rwa [same] at this)
        rw [leading] at same
        rw [stripped, beforeComment, findCharsOrComment_eq_self] at kept
        refine ⟨oneLine, fun first member => ⟨?_, ?_⟩, (rstrip_eq_self_iff _).mp same, ?_⟩
        · exact (lskip_eq_self_iff _).mp leading first member
        · rintro rfl
          obtain rfl : c = semicolon := by simpa using member
          have notSpace := kept.2 [] 32 text rfl
          simp [isSpace] at notSpace
        · exact fun front blank rest split => kept.2 (32 :: front) blank rest (by rw [split]; rfl)
      · rintro ⟨-, first, last, noComment⟩
        have stripped : rstrip (32 :: c :: text) = 32 :: c :: text := by
          rw [rstrip_eq_self_iff]
          simpa using last
        have kept : beforeComment (32 :: c :: text) = 32 :: c :: text := by
          rw [beforeComment, findCharsOrComment_eq_self]
          refine ⟨by simp, fun front blank rest split => ?_⟩
          cases front with
          | nil =>
              obtain ⟨-, same⟩ := List.cons.inj split
              exact absurd (List.cons.inj same).1 (first c rfl).2
          | cons other front => exact noComment front blank rest (List.cons.inj split).2
        have leading : lskip (c :: text) = c :: text :=
          (lskip_eq_self_iff _).mpr fun other member => (first other member).1
        rw [pairValue, stripped, kept, notFirst, leading, rstrip_eq_self_iff]
        exact last

-----------------------------------------------------------------------------------------
-- Files
-----------------------------------------------------------------------------------------

theorem OneLine.takeWhile_fgets (count : Nat) (bytes : List UInt8)
    : OneLine ((fgets count bytes).1.takeWhile (· ≠ 0)) :=
  OneLine.of_prefix (newline_notMem_dropLast_fgets count bytes) (List.takeWhile_prefix _)

/-- A property of the user data that the handler keeps is kept by the whole file, by
induction on the lines.
-/
theorem parseLoop_preserves {holds : User → Prop} {handler : Handler User}
    (kept
      : ∀ user currentSection name value,
          holds user
          → newline ∉ value.bytes
          → holds (handler user currentSection name value).1)
    (fuel : Nat) (bytes : List UInt8) {state : ParseState User} (before : holds state.user)
    : holds (parseLoop handler fuel bytes state).user := by
  induction fuel generalizing bytes state with
  | zero => exact before
  | succ fuel ih =>
      simp only [parseLoop]
      split
      · exact before
      · split
        · refine ih _ (parseLine_preserves kept ?_ (OneLine.takeWhile_fgets _ _))
          split <;> exact before
        · refine ih _ (parseLine_preserves kept ?_ (OneLine.takeWhile_fgets _ _))
          exact before

/-- A handler that reports no error of its own. -/
def Handler.Accepts (handler : Handler User) : Prop :=
  ∀ user currentSection name value, (handler user currentSection name value).2 = true

theorem ParseState.call_of_accepts {handler : Handler User} (accepts : handler.Accepts)
    (state : ParseState User) (name value : List UInt8)
    : state.call handler name value
      = { state with
          user :=
            (handler state.user (.ofBytes state.currentSection) (.ofBytes name)
              (.ofBytes value)).1 } := by
  simp only [call]
  rw [if_pos (accepts _ _ _ _)]

theorem ParseState.error_fail {state : ParseState User} (failed : state.error ≠ 0)
    : state.fail.error ≠ 0 := by
  simp [fail, failed]

theorem ParseState.error_call {handler : Handler User} {state : ParseState User}
    (failed : state.error ≠ 0) (name value : List UInt8)
    : (state.call handler name value).error ≠ 0 := by
  simp only [call]
  split
  · exact failed
  · exact ParseState.error_fail failed

/-- A reported error stays reported by every later line. -/
theorem error_parseLine {handler : Handler User} {state : ParseState User}
    (failed : state.error ≠ 0) (line : List UInt8)
    : (parseLine handler state line).error ≠ 0 := by
  simp only [parseLine]
  split
  · exact failed
  · split
    · exact failed
    · split
      · exact ParseState.error_call failed _ _
      · split
        · split
          · exact failed
          · exact ParseState.error_fail failed
        · split
          · split
            · exact ParseState.error_call (by exact failed) _ _
            · exact ParseState.error_fail failed
          · exact ParseState.error_fail failed

theorem error_parseLoop {handler : Handler User} (fuel : Nat) (bytes : List UInt8)
    {state : ParseState User} (failed : state.error ≠ 0)
    : (parseLoop handler fuel bytes state).error ≠ 0 := by
  induction fuel generalizing bytes state with
  | zero => exact failed
  | succ fuel ih =>
      simp only [parseLoop]
      split
      · exact failed
      · split
        · refine ih _ (error_parseLine ?_ _)
          split
          · exact failed
          · exact ParseState.error_fail failed
        · refine ih _ (error_parseLine ?_ _)
          exact failed

theorem PlainKey.newline_notMem {key : List UInt8} (plain : PlainKey key) : newline ∉ key := by
  intro member
  have keyByte := plain.2 _ member
  revert keyByte
  decide

theorem PlainKey.newline_notMem_pair {key text : List UInt8} (plain : PlainKey key)
    (oneLine : newline ∉ text)
    : newline ∉ key ++ 32 :: 61 :: 32 :: text := by
  simp only [List.mem_append, List.mem_cons, not_or]
  exact ⟨plain.newline_notMem, by decide, by decide, by decide, oneLine⟩

theorem PlainKey.nul_notMem {key : List UInt8} (plain : PlainKey key) : 0 ∉ key := by
  intro member
  have keyByte := plain.2 _ member
  revert keyByte
  decide

theorem takeWhile_eq_self_of_notMem {text : List UInt8} (noNul : 0 ∉ text)
    : text.takeWhile (· ≠ 0) = text := by
  rw [List.takeWhile_eq_self_iff]
  intro c member
  simpa using fun zero : c = 0 => noNul (zero ▸ member)

/-- One written line costs one iteration and makes one call of the handler. -/
theorem parseLoop_pair {handler : Handler User} (accepts : handler.Accepts)
    {key text : List UInt8} (plain : PlainKey key) (oneLine : newline ∉ text) (noNul : 0 ∉ text)
    (fits : key.length + text.length + 4 < maxLine) (fuel : Nat) (rest : List UInt8)
    (state : ParseState User)
    : parseLoop handler (fuel + 1) (key ++ 32 :: 61 :: 32 :: text ++ newline :: rest) state
      = parseLoop handler fuel rest
          { state with
            user :=
              (handler state.user (.ofBytes state.currentSection) (.ofBytes key)
                (.ofBytes (pairValue text))).1
            prevName := key.take (maxName - 1)
            lineno := state.lineno + 1 } := by
  have plainLine := plain.newline_notMem_pair oneLine
  have short : (key ++ 32 :: 61 :: 32 :: text).length < maxLine - 1 := by
    simp only [List.length_append, List.length_cons]
    omega
  have read
      : fgets (maxLine - 1) (key ++ 32 :: 61 :: 32 :: text ++ newline :: rest)
        = (key ++ 32 :: 61 :: 32 :: text ++ [newline], rest) :=
    fgets_line plainLine short
  have whole
      : (key ++ 32 :: 61 :: 32 :: text ++ [newline]).takeWhile (· ≠ 0)
        = key ++ 32 :: 61 :: 32 :: (text ++ [newline]) := by
    rw [takeWhile_eq_self_of_notMem]
    · simp
    · simp [plain.nul_notMem, noNul, newline]
  have nonempty
      : (key ++ 32 :: 61 :: 32 :: text ++ newline :: rest).isEmpty = false := by simp
  simp only [parseLoop, nonempty, Bool.false_eq_true, if_false, read, whole]
  have last : (key ++ 32 :: 61 :: 32 :: (text ++ [newline])).getLast? = some newline := by
    have split
        : key ++ 32 :: 61 :: 32 :: (text ++ [newline])
          = (key ++ 32 :: 61 :: 32 :: text) ++ [newline] := by
      simp
    rw [split, List.getLast?_concat]
  rw [if_neg (by simp [last])]
  rw [parseLine_pair handler _ plain, ParseState.call_of_accepts accepts,
    pairValue_concat_newline]

/-- A written line that does not fit the buffer is an error of the whole file. -/
theorem parseLoop_long {handler : Handler User} {key text : List UInt8} (plain : PlainKey key)
    (oneLine : newline ∉ text) (noNul : 0 ∉ text)
    (long : maxLine ≤ key.length + text.length + 4) (fuel : Nat) (rest : List UInt8)
    (state : ParseState User)
    : (parseLoop handler (fuel + 1) (key ++ 32 :: 61 :: 32 :: text ++ newline :: rest)
        state).error ≠ 0 := by
  have plainLine := plain.newline_notMem_pair oneLine
  have enough : maxLine - 1 ≤ (key ++ 32 :: 61 :: 32 :: text).length := by
    simp only [List.length_append, List.length_cons]
    omega
  have read
      : fgets (maxLine - 1) (key ++ 32 :: 61 :: 32 :: text ++ newline :: rest)
        = ((key ++ 32 :: 61 :: 32 :: text).take (maxLine - 1),
          (key ++ 32 :: 61 :: 32 :: text).drop (maxLine - 1) ++ newline :: rest) :=
    fgets_long plainLine enough
  have whole
      : ((key ++ 32 :: 61 :: 32 :: text).take (maxLine - 1)).takeWhile (· ≠ 0)
        = (key ++ 32 :: 61 :: 32 :: text).take (maxLine - 1) := by
    rw [takeWhile_eq_self_of_notMem]
    intro member
    have inLine := List.mem_of_mem_take member
    simp [plain.nul_notMem, noNul] at inLine
  have cut
      : ((key ++ 32 :: 61 :: 32 :: text).take (maxLine - 1)).length = maxLine - 1
        ∧ ((key ++ 32 :: 61 :: 32 :: text).take (maxLine - 1)).getLast? ≠ some newline := by
    refine ⟨List.length_take_of_le enough, fun last => ?_⟩
    exact plainLine (List.mem_of_mem_take (List.mem_of_getLast? last))
  have nonempty
      : (key ++ 32 :: 61 :: 32 :: text ++ newline :: rest).isEmpty = false := by simp
  simp only [parseLoop, nonempty, Bool.false_eq_true, if_false, read, whole]
  rw [if_pos cut]
  refine error_parseLoop _ _ (error_parseLine ?_ _)
  rw [if_neg (by simp)]
  simp only [ParseState.fail]
  split <;> simp_all

/-- A file whose first line writes a key establishes for that key whatever its handler
establishes for a value on one line; later lines keep it.
-/
theorem parseLoop_first {holds : User → Prop} {handler : Handler User}
    (accepts : handler.Accepts) {key : List UInt8} (plain : PlainKey key)
    (short : key.length + 3 < maxLine) {user : User}
    (first
      : ∀ currentSection value,
          newline ∉ value.bytes → holds (handler user currentSection (.ofBytes key) value).1)
    (kept
      : ∀ user currentSection name value,
          holds user
          → newline ∉ value.bytes
          → holds (handler user currentSection name value).1)
    (fuel : Nat) (bytes : List UInt8)
    : holds (parseLoop handler (fuel + 1) (key ++ 32 :: 61 :: 32 :: bytes) { user }).user := by
  have plainFront : newline ∉ key ++ [32, 61, 32] := plain.newline_notMem_pair (by simp)
  have read
      : ∀ (front : List UInt8) count,
          newline ∉ front
          → front.length ≤ count
          → (fgets count (front ++ bytes)).1 = front ++ (fgets (count - front.length) bytes).1 := by
    intro front
    induction front with
    | nil => simp
    | cons c front ih =>
        intro count plain fits
        simp only [List.mem_cons, not_or] at plain
        cases count with
        | zero => simp at fits
        | succ count =>
            simp only [List.length_cons, Nat.add_le_add_iff_right] at fits
            simp [fgets, Ne.symm plain.1, ih count plain.2 fits]
  have chunk := read _ (maxLine - 1) plainFront (by
    simp only [List.length_append, List.length_cons, List.length_nil]
    omega)
  have stored
      : (fgets (maxLine - 1) (key ++ 32 :: 61 :: 32 :: bytes)).1.takeWhile (· ≠ 0)
        = key ++ 32 :: 61 :: 32
          :: (fgets (maxLine - 1 - (key ++ [32, 61, 32]).length) bytes).1.takeWhile (· ≠ 0) := by
    have split : key ++ 32 :: 61 :: 32 :: bytes = key ++ [32, 61, 32] ++ bytes := by simp
    rw [split, chunk, List.takeWhile_append_of_pos]
    · simp
    · intro c member
      simp only [List.mem_append, List.mem_cons, List.not_mem_nil, or_false] at member
      rcases member with inKey | rfl | rfl | rfl
      · simpa using fun zero : c = 0 => plain.nul_notMem (zero ▸ inKey)
      all_goals decide
  have oneLine := OneLine.takeWhile_fgets (maxLine - 1 - (key ++ [32, 61, 32]).length) bytes
  have value
      : newline ∉ (CString.ofBytes (pairValue
          ((fgets (maxLine - 1 - (key ++ [32, 61, 32]).length) bytes).1.takeWhile
            (· ≠ 0)))).bytes :=
    fun member => newline_notMem_pairValue oneLine ((List.takeWhile_prefix _).subset member)
  have nonempty : (key ++ 32 :: 61 :: 32 :: bytes).isEmpty = false := by simp
  simp only [parseLoop, nonempty, Bool.false_eq_true, if_false, stored]
  split
  · refine parseLoop_preserves kept _ _ ?_
    rw [parseLine_pair handler _ plain, ParseState.call_of_accepts accepts]
    split <;> exact first _ _ value
  · refine parseLoop_preserves kept _ _ ?_
    rw [parseLine_pair handler _ plain, ParseState.call_of_accepts accepts]
    exact first _ _ value

-----------------------------------------------------------------------------------------
-- Files of written lines
-----------------------------------------------------------------------------------------

/-- One line as a writer prints it. -/
def pairLine (key text : List UInt8) : List UInt8 := key ++ 32 :: 61 :: 32 :: text ++ [newline]

/-- A file of written lines. -/
def pairsText (pairs : List (List UInt8 × List UInt8)) : List UInt8 :=
  pairs.flatMap fun pair => pairLine pair.1 pair.2

/-- The pair is read from the line it is written to. -/
def CleanPair (pair : List UInt8 × List UInt8) : Prop :=
  PlainKey pair.1 ∧ newline ∉ pair.2 ∧ 0 ∉ pair.2

/-- The written line fits the line buffer. -/
def FitsLine (pair : List UInt8 × List UInt8) : Prop :=
  pair.1.length + pair.2.length + 4 < maxLine

/-- What the handler makes of the pairs, one after the other. -/
def handlePairs (handler : Handler User) (pairs : List (List UInt8 × List UInt8)) (user : User)
    : User :=
  pairs.foldl
    (fun user pair => (handler user .empty (.ofBytes pair.1) (.ofBytes (pairValue pair.2))).1)
    user

theorem pairsText_cons (pair : List UInt8 × List UInt8) (pairs : List (List UInt8 × List UInt8))
    : pairsText (pair :: pairs)
      = pair.1 ++ 32 :: 61 :: 32 :: pair.2 ++ newline :: pairsText pairs := by
  simp [pairsText, pairLine]

theorem length_le_pairsText (pairs : List (List UInt8 × List UInt8))
    : pairs.length ≤ (pairsText pairs).length := by
  induction pairs with
  | nil => simp
  | cons pair pairs ih =>
      rw [pairsText_cons]
      simp only [List.length_append, List.length_cons]
      omega

/-- Lines that fit reach the handler in order and report nothing, by induction on them. -/
theorem parseLoop_pairs {handler : Handler User} (accepts : handler.Accepts)
    {pairs : List (List UInt8 × List UInt8)} (clean : ∀ pair ∈ pairs, CleanPair pair)
    (fits : ∀ pair ∈ pairs, FitsLine pair) {fuel : Nat} (enough : pairs.length ≤ fuel)
    (state : ParseState User) (outside : state.currentSection = [])
    : (parseLoop handler fuel (pairsText pairs) state).user = handlePairs handler pairs state.user
      ∧ (parseLoop handler fuel (pairsText pairs) state).error = state.error := by
  induction pairs generalizing fuel state with
  | nil => cases fuel <;> exact ⟨rfl, rfl⟩
  | cons pair pairs ih =>
      cases fuel with
      | zero => simp at enough
      | succ fuel =>
          obtain ⟨plain, oneLine, noNul⟩ := clean pair (by simp)
          rw [pairsText_cons,
            parseLoop_pair accepts plain oneLine noNul (fits pair (by simp)) fuel _ state]
          have shorter : pairs.length ≤ fuel := by simpa using enough
          have later := ih (fun other member => clean other (by simp [member]))
            (fun other member => fits other (by simp [member])) shorter
          refine ⟨(later _ ?_).1.trans ?_, (later _ ?_).2⟩
          · exact outside
          · rw [outside]
            rfl
          · exact outside

/-- One line that does not fit makes the file an error, by induction on the lines. -/
theorem error_parseLoop_pairs {handler : Handler User} (accepts : handler.Accepts)
    {pairs : List (List UInt8 × List UInt8)} (clean : ∀ pair ∈ pairs, CleanPair pair)
    {long : List UInt8 × List UInt8} (member : long ∈ pairs) (unfit : ¬FitsLine long)
    {fuel : Nat} (enough : pairs.length ≤ fuel) (state : ParseState User)
    : (parseLoop handler fuel (pairsText pairs) state).error ≠ 0 := by
  induction pairs generalizing fuel state with
  | nil => simp at member
  | cons pair pairs ih =>
      cases fuel with
      | zero => simp at enough
      | succ fuel =>
          obtain ⟨plain, oneLine, noNul⟩ := clean pair (by simp)
          rw [pairsText_cons]
          by_cases fits : FitsLine pair
          · rw [parseLoop_pair accepts plain oneLine noNul fits fuel _ state]
            have later : long ∈ pairs := by
              rcases List.mem_cons.mp member with rfl | inRest
              · exact absurd fits unfit
              · exact inRest
            exact ih (fun other member => clean other (by simp [member])) later
              (by simpa using enough) _
          · exact parseLoop_long plain oneLine noNul (Nat.le_of_not_lt fits) fuel _ state

/-- A file of clean lines is read without error exactly when every line fits, and then the
handler saw every pair.
-/
theorem iniParse_pairs {handler : Handler User} (accepts : handler.Accepts)
    {pairs : List (List UInt8 × List UInt8)} (clean : ∀ pair ∈ pairs, CleanPair pair)
    (user : User)
    : (∀ pair ∈ pairs, FitsLine pair)
        ∧ iniParse handler (some (pairsText pairs)) user = (handlePairs handler pairs user, 0)
      ∨ (¬∀ pair ∈ pairs, FitsLine pair)
        ∧ (iniParse handler (some (pairsText pairs)) user).2 ≠ 0 := by
  have enough := length_le_pairsText pairs
  by_cases fits : ∀ pair ∈ pairs, FitsLine pair
  · obtain ⟨read, error⟩ := parseLoop_pairs accepts clean fits enough { user } rfl
    exact .inl ⟨fits, by simp [iniParse, read, error]⟩
  · have ⟨long, unfit⟩ := not_forall.mp fits
    obtain ⟨member, tooLong⟩ := Classical.not_imp.mp unfit
    have error := error_parseLoop_pairs accepts clean member tooLong enough { user }
    refine .inr ⟨fits, ?_⟩
    simpa [iniParse] using error

end VitaMoonlight.Inih
