import VitaMoonlight.GameStream.ResponseDocument

/-! The lookup of one element's text in a whole document: which elements of that name it reads.
-/

namespace VitaMoonlight

open Library

/-- A node of an answer; a text is one piece of character data, cut anywhere. -/
abbrev LookupNode := Node CString XmlAttributes CString

/-- The callback of the lookup for a callback of the tree. -/
def XmlEvent.ofLookup : Callback CString XmlAttributes CString → XmlEvent
  | .start name attributes => .startElement name attributes.val
  | .text data => .characterData data.bytes
  | .finish name => .endElement name

/-- A well-formed answer. -/
structure LookupDocument where
  doctype : Bool
  name : CString
  attributes : XmlAttributes
  children : List LookupNode

namespace LookupDocument

/-- The root element of the answer. -/
def root (document : LookupDocument) : LookupNode :=
  .element document.name document.attributes document.children

/-- The callbacks the parser makes for the answer, which it accepts. -/
def parsed (document : LookupDocument) : XmlDocument where
  events :=
    (if document.doctype then [.startDoctype] else []) ++ document.root.callbacks.map .ofLookup
  wellFormed := true

end LookupDocument

/-- The character data of a content outside its elements. -/
def directText : List LookupNode → List UInt8
  | [] => []
  | .text data :: rest => data.bytes ++ directText rest
  | .element _ _ _ :: rest => directText rest

-----------------------------------------------------------------------------------------
-- One element
-----------------------------------------------------------------------------------------

/-- One callback of a tree. -/
def lookup (target : CString) (capacity : Nat) (context : XmlFindContext)
    (callback : Callback CString XmlAttributes CString)
    : XmlFindContext :=
  xmlFindEvent target capacity context (.ofLookup callback)

/-- What an element with the name leaves of the lookup. -/
def lookupElement (capacity : Nat) (context : XmlFindContext) (content : List LookupNode)
    : XmlFindContext :=
  { context with
    output := if context.found then [] else (directText content).take (capacity - 1)
    found := true }

variable {target : CString} {capacity : Nat}

/-- Inside an element of the target every tree is skipped. -/
theorem lookup_skips (target : CString) (capacity : Nat)
    : Node.Skips (lookup target capacity) (fun context => 2 ≤ context.depth) (fun _ => False)
        (fun _ => False) where
  stays := fun _ _ stuck => stuck
  text := by
    intro context data deep
    exact if_pos (.inl (by omega))
  enters := by
    intro context name attributes deep _
    have entered
        : lookup target capacity context (.start name attributes)
          = { context with depth := context.depth + 1 } := by
      simp only [lookup, XmlEvent.ofLookup, xmlFindEvent]
      rw [if_neg (by omega), if_pos (by omega)]
    rw [entered]
    refine ⟨Nat.le_succ_of_le deep, ?_⟩
    simp only [lookup, XmlEvent.ofLookup, xmlFindEvent]
    rw [if_pos (by omega), beq_false_of_ne (by omega)]
    simp
  refuses := fun _ _ _ _ refused => refused.elim

theorem visitAll_deep {context : XmlFindContext} (deep : 2 ≤ context.depth)
    (children : List LookupNode)
    : Node.visitAll (lookup target capacity) context children = context :=
  ((lookup_skips target capacity).visitAll children deep).1 fun _ _ refused => refused

/-- The content of the target adds its own text to the output, by induction on the content. -/
theorem visitAll_content (children : List LookupNode) (text output : List UInt8) (found : Bool)
    (start : found = false → output = text.take (capacity - 1))
    : Node.visitAll (lookup target capacity) ⟨output, 1, found⟩ children
      = ⟨if found then output else (text ++ directText children).take (capacity - 1), 1,
          found⟩ := by
  induction children generalizing text output with
  | nil =>
      cases found with
      | false => simp [Node.visitAll, directText, start rfl]
      | true => rfl
  | cons child rest ih =>
      change Node.visitAll _ (child.visit (lookup target capacity) _) rest = _
      cases child with
      | element name attributes content =>
          have entered
              : lookup target capacity ⟨output, 1, found⟩ (.start name attributes)
                = ⟨output, 2, found⟩ := rfl
          have left
              : lookup target capacity ⟨output, 2, found⟩ (.finish name)
                = ⟨output, 1, found⟩ := by
            simp [lookup, XmlEvent.ofLookup, xmlFindEvent]
          have skipped
              : Node.visitAll (lookup target capacity) ⟨output, 2, found⟩ content
                = ⟨output, 2, found⟩ :=
            visitAll_deep le_rfl content
          rw [Node.visit_element, entered, skipped, left, ih text output start]
          rfl
      | text data =>
          rw [Node.visit_text, directText, ← List.append_assoc]
          cases found with
          | true =>
              have kept
                  : lookup target capacity ⟨output, 1, true⟩ (.text data)
                    = ⟨output, 1, true⟩ := by
                simp [lookup, XmlEvent.ofLookup, xmlFindEvent]
              rw [kept, ih (text ++ data.bytes) output (by simp)]
          | false =>
              obtain rfl := start rfl
              have added
                  : lookup target capacity ⟨text.take (capacity - 1), 1, false⟩ (.text data)
                    = ⟨(text ++ data.bytes).take (capacity - 1), 1, false⟩ := by
                simp only [lookup, XmlEvent.ofLookup, xmlFindEvent, ne_eq, not_true, false_or,
                  Bool.false_eq_true, if_false, List.take_append, List.length_take]
                congr 3
                omega
              rw [added, ih (text ++ data.bytes) _ fun _ => rfl]
              rfl

/-- An element with the name takes its own text, unless one was read before. -/
theorem visit_target (output : List UInt8) (found : Bool) (attributes : XmlAttributes)
    (content : List LookupNode)
    : Node.visit (lookup target capacity) ⟨output, 0, found⟩ (.element target attributes content)
      = lookupElement capacity ⟨output, 0, found⟩ content := by
  have entered
      : lookup target capacity ⟨output, 0, found⟩ (.start target attributes)
        = ⟨[], 1, found⟩ := by
    simp [lookup, XmlEvent.ofLookup, xmlFindEvent]
  rw [Node.visit_element, entered, visitAll_content content [] [] found fun _ => by simp]
  simp [lookup, XmlEvent.ofLookup, xmlFindEvent, lookupElement]

-----------------------------------------------------------------------------------------
-- A whole document
-----------------------------------------------------------------------------------------

/-- The lookup takes the elements with the name whole and passes all others by. -/
theorem lookup_takes (target : CString) (capacity : Nat)
    : Node.Takes (lookup target capacity) (fun context => context.depth = 0) target
        (lookupElement capacity) where
  text := fun _ _ outside => if_pos (.inl (by omega))
  passes := by
    rintro ⟨output, depth, found⟩ name attributes rfl other
    simp [lookup, XmlEvent.ofLookup, xmlFindEvent, other]
  takes := by
    rintro ⟨output, depth, found⟩ attributes content rfl
    exact ⟨rfl, visit_target output found attributes content⟩

/-- What the outermost elements with the name leave of the lookup: the first one's text, which a
second one clears.
-/
theorem foldl_lookupElement (contents : List (List LookupNode))
    : contents.foldl (lookupElement capacity) {}
      = match contents with
        | [] => {}
        | [content] => ⟨(directText content).take (capacity - 1), 0, true⟩
        | _ :: _ :: _ => ⟨[], 0, true⟩ := by
  have cleared
      : ∀ (contents : List (List LookupNode)) (output : List UInt8),
          contents ≠ []
          → contents.foldl (lookupElement capacity) ⟨output, 0, true⟩ = ⟨[], 0, true⟩ := by
    intro contents
    induction contents with
    | nil => exact fun _ none => absurd rfl none
    | cons content rest ih =>
        intro output _
        rw [List.foldl_cons]
        change rest.foldl (lookupElement capacity) ⟨[], 0, true⟩ = _
        by_cases more : rest = []
        · rw [more]
          rfl
        · exact ih [] more
  cases contents with
  | nil => rfl
  | cons first rest =>
      cases rest with
      | nil => rfl
      | cons second rest =>
          rw [List.foldl_cons]
          exact cleared _ _ (by simp)

/-- The text that a lookup returns from the outermost elements with the name. -/
def foundText (capacity : Nat) : List (List LookupNode) → Option (List UInt8)
  | [] => none
  | [content] => some ((directText content).take (capacity - 1))
  | _ :: _ :: _ => some []

/-- `xml_find_value` in a document that the parser accepts. -/
theorem xmlFindValue_parsed (document : LookupDocument) (target : CString) {capacity : Nat}
    (room : capacity ≠ 0)
    : xmlFindValue document.parsed none target capacity
      = match foundText capacity (document.root.outermost target) with
        | none => .error .invalid
        | some text => .ok (.ofBytes text) := by
  have doctype
      : (if document.doctype then [XmlEvent.startDoctype] else []).foldl
            (xmlFindEvent target capacity) {}
        = {} := by
    cases document.doctype <;> rfl
  have events
      : document.parsed.events.foldl (xmlFindEvent target capacity) {}
        = (document.root.outermost target).foldl (lookupElement capacity) {} := by
    rw [LookupDocument.parsed, List.foldl_append, doctype, List.foldl_map]
    exact ((lookup_takes target capacity).visit document.root {} rfl).2
  have parsed : document.parsed.parse none = .ok document.parsed.events := rfl
  rw [xmlFindValue, if_neg room, parsed]
  change (if (document.parsed.events.foldl (xmlFindEvent target capacity) {}).found then _ else _)
    = _
  rw [events, foldl_lookupElement]
  rcases document.root.outermost target with _ | ⟨first, _ | ⟨second, rest⟩⟩ <;> rfl

-----------------------------------------------------------------------------------------
-- The first element
-----------------------------------------------------------------------------------------

/-- A lookup succeeds if there is an element with the name, and returns the clipped direct text of
the first one.
-/
def ReturnsFirst (document : LookupDocument) (target : CString) (capacity : Nat)
    (result : Except GameStreamError CString)
    : Prop :=
  ((∃ text, result = .ok text) ↔ target ∈ document.root.names)
  ∧ ∀ text,
      result = .ok text
      → ∃ content,
          document.root.firstContent target = some content
          ∧ text.bytes = (directText content).take (capacity - 1)

/-- All other elements with the name lie inside the first one, or its clipped text is empty. -/
def FirstStays (document : LookupDocument) (target : CString) (capacity : Nat) : Prop :=
  (∃ content, document.root.outermost target = [content])
  ∨ ∃ content,
      document.root.firstContent target = some content
      ∧ (directText content).take (capacity - 1) = []

theorem noNul_directText (content : List LookupNode) : 0 ∉ directText content := by
  induction content with
  | nil => simp [directText]
  | cons child rest ih =>
      cases child with
      | element name attributes children => exact ih
      | text data =>
          rw [directText, List.mem_append, not_or]
          exact ⟨data.noNul, ih⟩

/-- A lookup returns the text of the first element if and only if there is none, or there is a
parser and room, and no element with the name follows the first one, or its text is empty anyway.
-/
theorem xmlFindValue_returnsFirst_iff (document : LookupDocument) (fault : Option ParserFault)
    (target : CString) (capacity : Nat)
    : ReturnsFirst document target capacity (xmlFindValue document.parsed fault target capacity)
      ↔ target ∉ document.root.names
        ∨ fault = none ∧ 1 ≤ capacity ∧ FirstStays document target capacity := by
  have refused
      : ∀ {result : Except GameStreamError CString},
          (¬ ∃ text, result = .ok text)
          → (ReturnsFirst document target capacity result ↔ target ∉ document.root.names) := by
    intro result failed
    constructor
    · exact fun ⟨same, _⟩ named => failed (same.2 named)
    · intro unnamed
      exact ⟨iff_of_false failed unnamed, fun text here => absurd ⟨text, here⟩ failed⟩
  by_cases possible : fault = none ∧ 1 ≤ capacity
  · obtain ⟨rfl, room⟩ := possible
    rw [xmlFindValue_parsed document target (by omega), Node.mem_names_iff, FirstStays,
      ReturnsFirst, Node.mem_names_iff, Node.firstContent_eq_head?]
    rcases document.root.outermost target with _ | ⟨first, _ | ⟨second, rest⟩⟩
    · simp [foundText]
    · have whole
          : (CString.ofBytes ((directText first).take (capacity - 1))).bytes
            = (directText first).take (capacity - 1) :=
        CString.bytes_ofBytes fun member => noNul_directText first (List.mem_of_mem_take member)
      simp [foundText, whole, room]
    · have cleared : (CString.ofBytes []).bytes = [] := rfl
      simp only [foundText, cleared, List.head?_cons, Except.ok.injEq, forall_eq', exists_eq',
        Option.some.injEq, exists_eq_left', room, ne_eq, reduceCtorEq, not_false_eq_true,
        not_true_eq_false, List.cons.injEq, and_false, exists_false, false_or, true_and]
      exact eq_comm
  · rw [refused, or_iff_left fun ⟨parser, room, _⟩ => possible ⟨parser, room⟩]
    rintro ⟨text, found⟩
    rw [xmlFindValue] at found
    split at found
    · contradiction
    · rename_i room
      cases fault with
      | none => exact possible ⟨rfl, by omega⟩
      | some failed => cases failed <;> simp [XmlDocument.parse, bind, Except.bind] at found

/-- An answer with two elements of one name, the second one empty. -/
def repeatedElement : LookupDocument where
  doctype := false
  name := .ofLiteral "root"
  attributes := noAttributes
  children :=
    [.element (.ofLiteral "paired") noAttributes [.text (.ofLiteral "1")],
      .element (.ofLiteral "paired") noAttributes []]

/-- A second element clears the text of the first one. -/
theorem repeatedElement_cleared
    : ¬ ∀ (document : LookupDocument) (target : CString) (capacity : Nat),
          1 ≤ capacity
          → ReturnsFirst document target capacity
              (xmlFindValue document.parsed none target capacity) := by
  intro first
  obtain ⟨content, here, text⟩ :=
    (first repeatedElement (.ofLiteral "paired") 8 (by decide)).2 .empty (by decide +kernel)
  obtain rfl : content = [.text (.ofLiteral "1")] := (Option.some.inj here).symm
  revert text
  decide +kernel

end VitaMoonlight
