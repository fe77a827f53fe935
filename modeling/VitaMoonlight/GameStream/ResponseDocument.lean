import VitaMoonlight.GameStream.ResponseText
import VitaMoonlight.Library.ElementTree
import VitaMoonlight.Library.Fallible

/-! The documents of the strict reader as trees of elements, and how its callbacks read the parts
that all answers share: the root, the elements that no answer cares about, and the fields.
-/

namespace VitaMoonlight

open Library

-----------------------------------------------------------------------------------------
-- Documents
-----------------------------------------------------------------------------------------

/-- The attributes of an element, which a well-formed document names once each. -/
abbrev XmlAttributes :=
  { attributes : List (CString × CString) // (attributes.map Prod.fst).Nodup }

/-- No attributes. -/
def noAttributes : XmlAttributes := ⟨[], by simp⟩

/-- The attributes of a root that reports success. -/
def okAttributes : XmlAttributes :=
  ⟨[(.ofLiteral "status_code", .ofLiteral "200")], by simp⟩

/-- A node of a document. -/
abbrev XmlNode := Node CString XmlAttributes (List CodePoint)

/-- The root element of a document. -/
structure XmlRoot where
  name : CString
  attributes : XmlAttributes
  children : List XmlNode

namespace XmlRoot

/-- The root as a node. -/
def node (root : XmlRoot) : XmlNode := .element root.name root.attributes root.children

/-- How many elements the root contains, itself included. -/
def elements (root : XmlRoot) : Nat := root.node.names.length

end XmlRoot

/-- The callback of the reader for a callback of the tree. -/
def XmlEvent.ofCallback : Callback CString XmlAttributes (List CodePoint) → XmlEvent
  | .start name attributes => .startElement name attributes.val
  | .text data => .characterData (CodePoint.bytesAll data)
  | .finish name => .endElement name

/-- What the parser is given: a well-formed document, by its document type declaration and its
root, or bytes that it gives up on after some callbacks.
-/
inductive ResponseText
  | wellFormed (doctype : Bool) (root : XmlRoot)
  | malformed (callbacks : List XmlEvent)

/-- The callbacks for a text, and whether the parser accepts it. -/
def ResponseText.document : ResponseText → XmlDocument
  | .wellFormed doctype root =>
      { events :=
          (if doctype then [.startDoctype] else []) ++ root.node.callbacks.map .ofCallback
        wellFormed := true }
  | .malformed callbacks => { events := callbacks, wellFormed := false }

/-- One callback of a tree. -/
def respond (mode : ParseMode) (context : ParseContext)
    (callback : Callback CString XmlAttributes (List CodePoint))
    : ParseContext :=
  context.onEvent mode (.ofCallback callback)

theorem foldl_callbacks (mode : ParseMode) (context : ParseContext) (node : XmlNode)
    : (node.callbacks.map XmlEvent.ofCallback).foldl (ParseContext.onEvent mode) context
      = node.visit (respond mode) context := by
  rw [List.foldl_map]
  rfl

/-- A rejected document stays rejected. -/
theorem ParseContext.onEvent_invalid (mode : ParseMode) (context : ParseContext)
    (event : XmlEvent) (rejected : context.invalid = true)
    : (context.onEvent mode event).invalid = true := by
  cases event <;> simp [onEvent, startElement, endElement, characterData, reject, rejected]

theorem respond_invalid (mode : ParseMode) (context : ParseContext)
    (callback : Callback CString XmlAttributes (List CodePoint))
    (rejected : context.invalid = true)
    : (respond mode context callback).invalid = true :=
  context.onEvent_invalid mode _ rejected

-----------------------------------------------------------------------------------------
-- Parts of a document
-----------------------------------------------------------------------------------------

/-- The content of an element with a name. -/
def contentOf (name : CString) : XmlNode → Option (List XmlNode)
  | .element other _ children => if other = name then some children else none
  | .text _ => none

/-- The contents of the elements with a name, in the order of the document. -/
def namedContents (name : CString) (children : List XmlNode) : List (List XmlNode) :=
  children.filterMap (contentOf name)

/-- The text of a content without elements. -/
def plainText : List XmlNode → Option (List CodePoint)
  | [] => some []
  | .text data :: rest => (plainText rest).map (data ++ ·)
  | .element _ _ _ :: _ => none

/-- A content with an element in it has no plain text, by induction on the content. -/
theorem plainText_of_mem_names {name : CString} {content : List XmlNode}
    (member : name ∈ Node.namesAll content)
    : plainText content = none := by
  induction content with
  | nil => exact absurd member List.not_mem_nil
  | cons child rest ih =>
      cases child with
      | element other attributes children => rfl
      | text data =>
          rw [Node.namesAll, Node.names_text, List.nil_append] at member
          rw [plainText, ih member]
          rfl

/-- A reader of the content of the elements with a name, of which there may be one. -/
def readOnce {Value : Type} (name : CString) (read : List XmlNode → Option Value)
    (found : Option Value)
    : XmlNode → Option (Option Value)
  | .text _ => some found
  | .element other _ content =>
      if other = name then if found.isSome then none else (read content).map some else some found

section

variable {Value : Type} {name : CString} {read : List XmlNode → Option Value}

theorem readOnce_first (attributes : XmlAttributes) (content : List XmlNode)
    : readOnce name read none (.element name attributes content) = (read content).map some := by
  simp [readOnce]

theorem readOnce_again (found : Value) (attributes : XmlAttributes) (content : List XmlNode)
    : readOnce name read (some found) (.element name attributes content) = none := by
  simp [readOnce]

theorem readOnce_unread (found : Option Value) (attributes : XmlAttributes)
    {content : List XmlNode} (unread : read content = none)
    : readOnce name read found (.element name attributes content) = none := by
  cases found <;> simp [readOnce, unread]

theorem readOnce_other {other : CString} (different : other ≠ name) (found : Option Value)
    (attributes : XmlAttributes) (content : List XmlNode)
    : readOnce name read found (.element other attributes content) = some found :=
  if_neg different

/-- The contents with a name are read if there is at most one and it is read, by induction on the
children.
-/
theorem foldlM_readOnce_iff (children : List XmlNode) (found next : Option Value)
    : children.foldlM (readOnce name read) found = some next
      ↔ ∃ values,
          List.Forall₂ (fun content value => read content = some value)
            (namedContents name children) values
          ∧ found.toList ++ values = next.toList := by
  induction children generalizing found with
  | nil =>
      have same : found.toList = next.toList ↔ found = next := by
        cases found <;> cases next <;> simp
      simp [namedContents, same]
  | cons child rest ih =>
      rw [List.foldlM_cons]
      cases child with
      | text data => exact ih found
      | element other attributes content =>
          by_cases named : other = name
          · have contents
                : namedContents name (.element other attributes content :: rest)
                  = content :: namedContents name rest := by
              simp [namedContents, contentOf, named]
            rw [contents, readOnce, if_pos named]
            cases found with
            | some first =>
                refine iff_of_false (by simp) ?_
                rintro ⟨values, all, twice⟩
                obtain ⟨second, others, -, -, rfl⟩ := List.forall₂_cons_left_iff.1 all
                cases next <;> simp at twice
            | none =>
                cases value : read content with
                | none =>
                    refine iff_of_false (by simp) ?_
                    rintro ⟨values, all, -⟩
                    obtain ⟨first, others, here, -, rfl⟩ := List.forall₂_cons_left_iff.1 all
                    rw [value] at here
                    contradiction
                | some first =>
                    have later := ih (some first)
                    simp only [Option.isSome_none, Bool.false_eq_true, if_false, Option.map_some,
                      Option.bind_eq_bind, Option.bind_some, later, Option.toList_some,
                      Option.toList_none, List.nil_append, List.singleton_append]
                    constructor
                    · rintro ⟨others, all, same⟩
                      exact ⟨first :: others, .cons value all, same⟩
                    · rintro ⟨values, all, same⟩
                      obtain ⟨other, others, here, rest, rfl⟩ :=
                        List.forall₂_cons_left_iff.1 all
                      obtain rfl := Option.some.inj (value.symm.trans here)
                      exact ⟨others, rest, same⟩
          · have contents
                : namedContents name (.element other attributes content :: rest)
                  = namedContents name rest := by
              simp [namedContents, contentOf, named]
            rw [contents, readOnce, if_neg named]
            exact ih found

/-- One content is read. -/
theorem foldlM_readOnce_some (children : List XmlNode) (value : Value)
    : children.foldlM (readOnce name read) none = some (some value)
      ↔ ∃ content, namedContents name children = [content] ∧ read content = some value := by
  rw [foldlM_readOnce_iff]
  simp only [Option.toList_none, List.nil_append, Option.toList_some, exists_eq_right]
  constructor
  · intro all
    obtain ⟨content, rest, here, none, same⟩ := List.forall₂_cons_right_iff.1 all
    obtain rfl := List.forall₂_nil_right_iff.1 none
    exact ⟨content, same, here⟩
  · rintro ⟨content, same, here⟩
    rw [same]
    exact .cons here .nil

end

/-- The value of the text of a content without elements. -/
def readText {Value : Type} (value : CString → Option Value) (content : List XmlNode)
    : Option Value :=
  match plainText content with
  | none => none
  | some points =>
      if (CodePoint.bytesAll points).length ≤ 255 then value (.ofBytes (CodePoint.bytesAll points))
      else none

theorem readText_iff {Value : Type} {value : CString → Option Value} {content : List XmlNode}
    {result : Value}
    : readText value content = some result
      ↔ ∃ points,
          plainText content = some points
          ∧ (CodePoint.bytesAll points).length ≤ 255
          ∧ value (.ofBytes (CodePoint.bytesAll points)) = some result := by
  unfold readText
  cases plainText content with
  | none => simp
  | some points => simp

/-- The root has a numeric status code. -/
def XmlRoot.HasStatus (root : XmlRoot) (status : Nat) : Prop :=
  ∃ text,
    root.attributes.val.lookup (.ofLiteral "status_code") = some text
    ∧ NumberText text.bytes status

-----------------------------------------------------------------------------------------
-- The root
-----------------------------------------------------------------------------------------

namespace ParseContext

/-- An attribute that is no status code changes at most the message. -/
theorem rootAttribute_other (context : ParseContext) (named : CString × CString)
    (other : named.1 ≠ .ofLiteral "status_code")
    : ∃ message,
        context.rootAttribute named
        = { context with response := { context.response with statusMessage := message } } := by
  unfold rootAttribute
  rw [if_neg other]
  split
  · exact ⟨_, rfl⟩
  · exact ⟨context.response.statusMessage, rfl⟩

/-- Attributes without a status code change at most the message, by induction on them. -/
theorem rootAttributes_other (context : ParseContext) (attributes : List (CString × CString))
    (others : ∀ named ∈ attributes, named.1 ≠ .ofLiteral "status_code")
    : ∃ message,
        attributes.foldl rootAttribute context
        = { context with response := { context.response with statusMessage := message } } := by
  induction attributes generalizing context with
  | nil => exact ⟨context.response.statusMessage, rfl⟩
  | cons named rest ih =>
      rw [List.forall_mem_cons] at others
      obtain ⟨message, same⟩ := context.rootAttribute_other named others.1
      obtain ⟨last, done⟩ := ih (context.rootAttribute named) others.2
      exact ⟨last, by rw [List.foldl_cons, done, same]⟩

/-- What the attributes of the root leave, by whether they have a status code. -/
theorem rootAttributes (context : ParseContext) (attributes : List (CString × CString))
    (distinct : (attributes.map Prod.fst).Nodup)
    : ∃ message,
        attributes.foldl rootAttribute context
        = match attributes.lookup (.ofLiteral "status_code") with
          | none => { context with response := { context.response with statusMessage := message } }
          | some text =>
              match parseNumber text with
              | some status =>
                  { context with
                    response :=
                      { context.response with statusCode := status, statusMessage := message } }
              | none =>
                  { context.reject with
                    response := { context.response with statusMessage := message } } := by
  induction attributes generalizing context with
  | nil => exact ⟨context.response.statusMessage, rfl⟩
  | cons named rest ih =>
      rw [List.map_cons, List.nodup_cons] at distinct
      by_cases status : named.1 = .ofLiteral "status_code"
      · have others : ∀ other ∈ rest, other.1 ≠ .ofLiteral "status_code" := by
          intro other member same
          exact distinct.1 (status ▸ same ▸ List.mem_map_of_mem member)
        obtain ⟨message, done⟩ := (context.rootAttribute named).rootAttributes_other rest others
        have found : (named :: rest).lookup (.ofLiteral "status_code") = some named.2 := by
          rw [List.lookup_cons, status]
          simp
        refine ⟨message, ?_⟩
        rw [List.foldl_cons, done, found, rootAttribute, if_pos status]
        dsimp only
        cases parseNumber named.2 <;> rfl
      · obtain ⟨first, same⟩ := context.rootAttribute_other named status
        obtain ⟨message, done⟩ := ih (context.rootAttribute named) distinct.2
        have passed
            : (named :: rest).lookup (.ofLiteral "status_code")
              = rest.lookup (.ofLiteral "status_code") := by
          rw [List.lookup_cons, beq_false_of_ne (Ne.symm status)]
        refine ⟨message, ?_⟩
        rw [List.foldl_cons, done, passed, same]
        cases rest.lookup (.ofLiteral "status_code") with
        | none => rfl
        | some text =>
            dsimp only
            cases parseNumber text <;> rfl

end ParseContext

/-- The reader behind the start of a root with a status. -/
def rootOpened (status : Nat) (message : CharArray 256) : ParseContext where
  response := { statusCode := status, statusMessage := message }
  depth := 1
  rootSeen := true

/-- The start of a root with a status other than zero is accepted. -/
theorem respond_root (mode : ParseMode) {root : XmlRoot} {status : Nat}
    (name : root.name = .ofLiteral "root") (numeric : root.HasStatus status)
    (nonzero : status ≠ 0)
    : ∃ message,
        respond mode {} (.start root.name root.attributes) = rootOpened status message := by
  obtain ⟨text, found, number⟩ := numeric
  obtain ⟨message, read⟩ :=
    ParseContext.rootAttributes { depth := 1, rootSeen := true } root.attributes.val
      root.attributes.property
  rw [found] at read
  simp only [(parseNumber_iff text status).2 number] at read
  refine ⟨message, ?_⟩
  change ParseContext.startRoot { depth := 1 } root.name root.attributes.val = _
  rw [ParseContext.startRoot, if_neg (by simp [name])]
  dsimp only
  rw [read, if_neg (by simpa using nonzero)]
  rfl

/-- The start of any other root is rejected. -/
theorem respond_root_rejected (mode : ParseMode) {root : XmlRoot}
    (bad
      : root.name = .ofLiteral "root" → ∀ status, root.HasStatus status → status = 0)
    : (respond mode {} (.start root.name root.attributes)).invalid = true := by
  change (ParseContext.startRoot { depth := 1 } root.name root.attributes.val).invalid = true
  unfold ParseContext.startRoot
  split
  · rfl
  · rename_i named
    have zero := bad (by simpa using named)
    obtain ⟨message, read⟩ :=
      ParseContext.rootAttributes { depth := 1, rootSeen := true } root.attributes.val
        root.attributes.property
    dsimp only
    rw [read]
    cases found : root.attributes.val.lookup (.ofLiteral "status_code") with
    | none => rfl
    | some text =>
        cases number : parseNumber text with
        | none => simp [number, ParseContext.reject]
        | some status =>
            have none := zero status ⟨text, found, (parseNumber_iff text status).1 number⟩
            simp [number, none, ParseContext.reject]

/-- The end of the root. -/
theorem respond_root_end (mode : ParseMode) {context : ParseContext} (name : CString)
    (valid : context.invalid = false) (idle : context.field = .none) (level : context.depth = 1)
    : respond mode context (.finish name) = { context with depth := 0 } := by
  cases mode <;>
    simp [respond, XmlEvent.ofCallback, ParseContext.onEvent, ParseContext.endElement, valid,
      idle, level]

-----------------------------------------------------------------------------------------
-- The result
-----------------------------------------------------------------------------------------

/-- What the reader makes of a text that the parser accepts. -/
def ParseContext.conclude (mode : ParseMode) (context : ParseContext) : Except XmlError Unit :=
  if context.invalid || !context.rootSeen || context.depth ≠ 0 then .error .invalid
  else if context.response.statusCode ≠ 200 then .error .serverError
  else
    match mode with
    | .list _ => .ok ()
    | .scalar _ => if context.haveSession then .ok () else .error .invalid

theorem ParseContext.conclude_invalid (mode : ParseMode) {context : ParseContext}
    (rejected : context.invalid = true)
    : context.conclude mode = .error .invalid := by
  simp [conclude, rejected]

/-- A document without a document type declaration is read as the tree it is. -/
theorem parseResponse_tree (mode : ParseMode) (root : XmlRoot)
    : parseResponse mode (ResponseText.wellFormed false root).document none
      = (root.node.visit (respond mode) {}, (root.node.visit (respond mode) {}).conclude mode) := by
  have events
      : (ResponseText.wellFormed false root).document.events.foldl (ParseContext.onEvent mode) {}
        = root.node.visit (respond mode) {} :=
    foldl_callbacks mode {} root.node
  simp only [parseResponse, events, reduceCtorEq, if_false, ParseContext.conclude]
  cases mode with
  | list capacity =>
      simp only [ResponseText.document, Option.isNone_none, Bool.and_self, Bool.not_true,
        Bool.false_or]
      split_ifs <;> rfl
  | scalar resultField =>
      simp only [ResponseText.document, Option.isNone_none, Bool.and_self, Bool.not_true,
        Bool.false_or]
      split_ifs <;> rfl

/-- Documents with a document type declaration and bytes that are no document are rejected. -/
theorem parseResponse_rejects (mode : ParseMode) {text : ResponseText}
    (bad : ∀ root, text ≠ .wellFormed false root)
    : (parseResponse mode text.document none).2 = .error .invalid := by
  cases text with
  | malformed callbacks => simp [parseResponse, ResponseText.document]
  | wellFormed doctype root =>
      cases doctype with
      | false => exact absurd rfl (bad root)
      | true =>
          have rejected
              : ((ResponseText.wellFormed true root).document.events.foldl
                  (ParseContext.onEvent mode) {}).invalid = true := by
            change
              (List.foldl (ParseContext.onEvent mode) (ParseContext.reject {})
                (root.node.callbacks.map XmlEvent.ofCallback)).invalid = true
            rw [foldl_callbacks]
            exact Node.visit_stuck (respond_invalid mode) rfl root.node
          simp [parseResponse, rejected]

/-- A root that is not read is rejected. -/
theorem parseResponse_rejects_root (mode : ParseMode) {root : XmlRoot}
    (bad
      : root.name = .ofLiteral "root" → ∀ status, root.HasStatus status → status = 0)
    : (parseResponse mode (ResponseText.wellFormed false root).document none).2
      = .error .invalid := by
  have rejected : (root.node.visit (respond mode) {}).invalid = true := by
    rw [XmlRoot.node, Node.visit_element]
    exact
      respond_invalid mode _ _
        (Node.visitAll_stuck (respond_invalid mode) (respond_root_rejected mode bad) root.children)
  rw [parseResponse_tree]
  exact ParseContext.conclude_invalid mode rejected

-----------------------------------------------------------------------------------------
-- Elements that no answer cares about
-----------------------------------------------------------------------------------------

/-- Under a status other than 200 nothing below the root is read. -/
theorem skips_without_success (mode : ParseMode)
    : Node.Skips (respond mode)
        (fun context =>
          context.invalid = false ∧ context.field = .none ∧ context.response.statusCode ≠ 200
          ∧ 1 ≤ context.depth)
        (fun context => context.invalid = true) (fun _ => False) where
  stays context callback := respond_invalid mode context callback
  text := by
    rintro context data ⟨-, idle, -⟩
    simp [respond, XmlEvent.ofCallback, ParseContext.onEvent, ParseContext.characterData, idle]
  enters := by
    rintro context name attributes ⟨valid, idle, failed, inside⟩ -
    have entered
        : respond mode context (.start name attributes)
          = { context with depth := context.depth + 1 } := by
      simp only [respond, XmlEvent.ofCallback, ParseContext.onEvent, ParseContext.startElement,
        valid, Bool.false_eq_true, if_false, ne_eq, failed, not_false_eq_true, if_true]
      rw [if_neg (by omega)]
    rw [entered]
    refine ⟨⟨valid, idle, failed, by dsimp only; omega⟩, ?_⟩
    have left
        : respond mode { context with depth := context.depth + 1 } (.finish name)
          = { context with depth := context.depth + 1 - 1 } := by
      cases mode <;>
        simp [respond, XmlEvent.ofCallback, ParseContext.onEvent, ParseContext.endElement, valid,
          idle, failed]
    rw [left, Int.add_sub_cancel]
  refuses _ _ _ _ refused := absurd refused id

/-- A root with a status other than zero and 200 is a server error. -/
theorem parseResponse_serverError (mode : ParseMode) {root : XmlRoot} {status : Nat}
    (name : root.name = .ofLiteral "root") (numeric : root.HasStatus status)
    (nonzero : status ≠ 0) (failed : status ≠ 200)
    : ∃ message,
        parseResponse mode (ResponseText.wellFormed false root).document none
        = ({ rootOpened status message with depth := 0 }, .error .serverError) := by
  obtain ⟨message, opened⟩ := respond_root mode name numeric nonzero
  have other : (status : Int) ≠ 200 := by omega
  have calm
      : (rootOpened status message).invalid = false ∧ (rootOpened status message).field = .none
        ∧ (rootOpened status message).response.statusCode ≠ 200
        ∧ 1 ≤ (rootOpened status message).depth :=
    ⟨rfl, rfl, other, le_rfl⟩
  have skipped := ((skips_without_success mode).visitAll root.children calm).1 fun _ _ => id
  have read
      : root.node.visit (respond mode) {} = { rootOpened status message with depth := 0 } := by
    rw [XmlRoot.node, Node.visit_element, opened, skipped]
    exact respond_root_end mode root.name rfl rfl rfl
  refine ⟨message, ?_⟩
  rw [parseResponse_tree, read]
  simp [ParseContext.conclude, rootOpened, other]

/-- Only a root that reports success is accepted. -/
theorem parseResponse_root (mode : ParseMode) {root : XmlRoot}
    (accepted
      : (parseResponse mode (ResponseText.wellFormed false root).document none).2 = .ok ())
    : root.name = .ofLiteral "root" ∧ root.HasStatus 200 := by
  by_cases read
      : root.name = .ofLiteral "root" ∧ ∃ status, root.HasStatus status ∧ status ≠ 0
  · obtain ⟨name, status, numeric, nonzero⟩ := read
    by_cases success : status = 200
    · exact ⟨name, success ▸ numeric⟩
    · obtain ⟨message, result⟩ := parseResponse_serverError mode name numeric nonzero success
      rw [result] at accepted
      contradiction
  · rw [parseResponse_rejects_root mode fun name status numeric => ?_] at accepted
    · contradiction
    · by_contra nonzero
      exact read ⟨name, status, numeric, nonzero⟩

/-- Only a document without a document type declaration is accepted. -/
theorem parseResponse_accepted (mode : ParseMode) {text : ResponseText}
    (accepted : (parseResponse mode text.document none).2 = .ok ())
    : ∃ root,
        text = .wellFormed false root
        ∧ root.name = .ofLiteral "root"
        ∧ root.HasStatus 200 := by
  by_cases tree : ∃ root, text = .wellFormed false root
  · obtain ⟨root, rfl⟩ := tree
    exact ⟨root, rfl, parseResponse_root mode accepted⟩
  · rw [parseResponse_rejects mode fun root same => tree ⟨root, same⟩] at accepted
    contradiction

-----------------------------------------------------------------------------------------
-- Fields
-----------------------------------------------------------------------------------------

theorem respond_text_idle (mode : ParseMode) {context : ParseContext}
    (idle : context.field = .none) (data : List CodePoint)
    : respond mode context (.text data) = context := by
  simp [respond, XmlEvent.ofCallback, ParseContext.onEvent, ParseContext.characterData, idle]

/-- The text of a field goes on where it stopped, unless it is too long for a field that is no
title.
-/
theorem respond_text (mode : ParseMode) {context : ParseContext} (prior : List UInt8)
    (data : List CodePoint) (valid : context.invalid = false) (opened : context.field ≠ .none)
    (text : context.text = prior.take 255)
    (room : context.field = .title ∨ prior.length ≤ 255)
    : if context.field = .title ∨ (prior ++ CodePoint.bytesAll data).length ≤ 255 then
        respond mode context (.text data)
        = { context with text := (prior ++ CodePoint.bytesAll data).take 255 }
      else (respond mode context (.text data)).invalid = true := by
  have joined
      : context.text ++ (CodePoint.bytesAll data).take (255 - context.text.length)
        = (prior ++ CodePoint.bytesAll data).take 255 := by
    rw [text, List.length_take, List.take_append]
    congr 2
    omega
  have shown
      : respond mode context (.text data)
        = if (CodePoint.bytesAll data).length > 255 - context.text.length
              ∧ context.field ≠ .title then context.reject
          else { context with text := (prior ++ CodePoint.bytesAll data).take 255 } := by
    simp only [respond, XmlEvent.ofCallback, ParseContext.onEvent, ParseContext.characterData,
      valid, opened, Bool.false_eq_true, or_self, if_false, joined]
  rw [shown, text, List.length_take]
  split
  · rename_i fits
    rw [if_neg]
    rintro ⟨long, other⟩
    obtain title | fits := fits
    · exact other title
    · rw [List.length_append] at fits
      omega
  · rename_i long
    rw [not_or, List.length_append] at long
    rw [if_pos]
    · rfl
    · refine ⟨?_, long.1⟩
      have short := room.resolve_left long.1
      omega

/-- The content of an open field: its text if there are no elements in it, by induction on the
content.
-/
theorem visit_content (mode : ParseMode) (content : List XmlNode) {context : ParseContext}
    (prior : List UInt8) (valid : context.invalid = false) (opened : context.field ≠ .none)
    (success : context.response.statusCode = 200) (inside : 1 ≤ context.depth)
    (text : context.text = prior.take 255) (room : context.field = .title ∨ prior.length ≤ 255)
    : match plainText content with
      | none => (Node.visitAll (respond mode) context content).invalid = true
      | some points =>
          if context.field = .title ∨ (prior ++ CodePoint.bytesAll points).length ≤ 255 then
            Node.visitAll (respond mode) context content
            = { context with text := (prior ++ CodePoint.bytesAll points).take 255 }
          else (Node.visitAll (respond mode) context content).invalid = true := by
  induction content generalizing context prior with
  | nil =>
      simp only [plainText, CodePoint.bytesAll_nil, List.append_nil, if_pos room]
      rw [← text]
      rfl
  | cons child rest ih =>
      cases child with
      | element name attributes children =>
          have rejected : (respond mode context (.start name attributes)).invalid = true := by
            have deeper : context.depth + 1 ≠ 1 := by omega
            simp [respond, XmlEvent.ofCallback, ParseContext.onEvent, ParseContext.startElement,
              valid, deeper, success, opened, ParseContext.reject]
          simp only [plainText]
          refine Node.visitAll_stuck (respond_invalid mode) ?_ rest
          rw [Node.visit_element]
          exact
            respond_invalid mode _ _
              (Node.visitAll_stuck (respond_invalid mode) rejected children)
      | text data =>
          have now := respond_text mode prior data valid opened text room
          have first
              : Node.visitAll (respond mode) context (.text data :: rest)
                = Node.visitAll (respond mode) (respond mode context (.text data)) rest := by
            change Node.visitAll _ (Node.visit _ _ _) _ = _
            rw [Node.visit_text]
          rw [first, plainText]
          by_cases fits : context.field = .title ∨ (prior ++ CodePoint.bytesAll data).length ≤ 255
          · rw [if_pos fits] at now
            rw [now]
            let read : ParseContext :=
              { context with text := (prior ++ CodePoint.bytesAll data).take 255 }
            have later := @ih read _ valid opened success inside rfl fits
            cases plain : plainText rest with
            | none =>
                rw [plain] at later
                exact later
            | some points =>
                rw [plain] at later
                dsimp only [Option.map_some]
                rw [CodePoint.bytesAll_append, ← List.append_assoc]
                exact later
          · rw [if_neg fits] at now
            have rejected := Node.visitAll_stuck (respond_invalid mode) now rest
            cases plainText rest with
            | none => exact rejected
            | some points =>
                dsimp only [Option.map_some]
                rw [if_neg]
                · exact rejected
                · rw [not_or, List.length_append] at fits ⊢
                  rw [CodePoint.bytesAll_append, List.length_append]
                  exact ⟨fits.1, by omega⟩

/-- What a field leaves that is read to its end with a text. -/
def ParseContext.readField (context : ParseContext) (field : XmlField) (text : List UInt8)
    : ParseContext :=
  let opened := { context with depth := context.depth + 1 }.beginField field
  { { opened with text }.endField with field := .none, depth := context.depth }

theorem ParseContext.depth_endField (context : ParseContext)
    : context.endField.depth = context.depth := by
  unfold endField
  cases context.field with
  | none | title => rfl
  | id =>
      dsimp only
      split <;> rfl
  | session | url =>
      dsimp only
      split <;> rfl

/-- An element whose start opens a field is read to its end, if it contains no elements and is not
too long for a field that is no title.
-/
theorem visit_field (mode : ParseMode) (field : XmlField) (name : CString)
    (attributes : XmlAttributes) (content : List XmlNode) {context : ParseContext}
    (valid : context.invalid = false) (success : context.response.statusCode = 200)
    (inside : 1 ≤ context.depth) (named : field ≠ .none)
    (begins
      : respond mode context (.start name attributes)
        = { context with depth := context.depth + 1 }.beginField field)
    (ends : ∀ capacity, mode = .list capacity → context.depth ≠ 1)
    : match plainText content with
      | none => (Node.visit (respond mode) context (.element name attributes content)).invalid = true
      | some points =>
          if field = .title ∨ (CodePoint.bytesAll points).length ≤ 255 then
            Node.visit (respond mode) context (.element name attributes content)
            = context.readField field ((CodePoint.bytesAll points).take 255)
          else
            (Node.visit (respond mode) context (.element name attributes content)).invalid
            = true := by
  rw [Node.visit_element, begins]
  let opened := { context with depth := context.depth + 1 }.beginField field
  have deep : 1 ≤ opened.depth := by
    change 1 ≤ context.depth + 1
    omega
  have read :=
    @visit_content mode content opened [] valid named success deep rfl (.inr (by simp))
  have finished
      : ∀ text,
          respond mode { opened with text } (.finish name) = context.readField field text := by
    intro text
    let closed : ParseContext := { ({ opened with text } : ParseContext).endField with field := .none }
    have level : closed.depth = context.depth + 1 :=
      ({ opened with text } : ParseContext).depth_endField
    have back : closed.depth - 1 = context.depth := by omega
    have ended
        : respond mode { opened with text } (.finish name)
          = { closed with depth := closed.depth - 1 } := by
      have here
          : (if ({ opened with text } : ParseContext).field ≠ .none
                ∧ ({ opened with text } : ParseContext).depth
                  = ({ opened with text } : ParseContext).fieldDepth then
              { ({ opened with text } : ParseContext).endField with field := .none }
            else { opened with text })
            = closed := if_pos ⟨named, rfl⟩
      simp only [respond, XmlEvent.ofCallback, ParseContext.onEvent, ParseContext.endElement]
      rw [if_neg (show ¬ opened.invalid = true from Bool.eq_false_iff.1 valid), here]
      cases mode with
      | scalar result => rfl
      | list capacity =>
          dsimp only
          rw [if_neg]
          rintro ⟨two, -⟩
          have outer := ends capacity rfl
          omega
    rw [ended, back]
    rfl
  cases plain : plainText content with
  | none =>
      rw [plain] at read
      exact respond_invalid mode _ _ read
  | some points =>
      rw [plain] at read
      simp only [List.nil_append] at read
      dsimp only
      by_cases fits : field = .title ∨ (CodePoint.bytesAll points).length ≤ 255
      · rw [if_pos (show opened.field = .title ∨ _ from fits)] at read
        rw [if_pos fits, read]
        exact finished _
      · rw [if_neg (show ¬ (opened.field = .title ∨ _) from fits)] at read
        rw [if_neg fits]
        exact respond_invalid mode _ _ read

/-- A field that is no title is read as the value of its text. -/
theorem visit_value {Value : Type} (mode : ParseMode) (field : XmlField) (name : CString)
    (attributes : XmlAttributes) (content : List XmlNode) {context : ParseContext}
    (valid : context.invalid = false) (success : context.response.statusCode = 200)
    (inside : 1 ≤ context.depth) (named : field ≠ .none) (other : field ≠ .title)
    (begins
      : respond mode context (.start name attributes)
        = { context with depth := context.depth + 1 }.beginField field)
    (ends : ∀ capacity, mode = .list capacity → context.depth ≠ 1)
    {value : CString → Option Value} {related : ParseContext → Value → Prop}
    (read
      : ∀ text : List UInt8,
          text.length ≤ 255
          → Node.Follows related (fun context => context.invalid = true) (value (.ofBytes text))
              (context.readField field text))
    : Node.Follows related (fun context => context.invalid = true) (readText value content)
        (Node.visit (respond mode) context (.element name attributes content)) := by
  have visited :=
    visit_field mode field name attributes content valid success inside named begins ends
  unfold readText
  cases plain : plainText content with
  | none =>
      rw [plain] at visited
      exact visited
  | some points =>
      rw [plain] at visited
      dsimp only at visited ⊢
      by_cases short : (CodePoint.bytesAll points).length ≤ 255
      · rw [if_pos (.inr short), List.take_of_length_le short] at visited
        rw [if_pos short, visited]
        exact read _ short
      · rw [if_neg (by simp [other, short])] at visited
        rw [if_neg short]
        exact visited

/-- An element at whose start the reader stops is rejected. -/
theorem visit_rejected {mode : ParseMode} {context : ParseContext} {name : CString}
    {attributes : XmlAttributes} (content : List XmlNode)
    (stopped : (respond mode context (.start name attributes)).invalid = true)
    : (Node.visit (respond mode) context (.element name attributes content)).invalid = true := by
  rw [Node.visit_element]
  exact respond_invalid mode _ _ (Node.visitAll_stuck (respond_invalid mode) stopped content)

end VitaMoonlight
