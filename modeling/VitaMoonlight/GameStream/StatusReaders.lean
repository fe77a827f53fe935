import VitaMoonlight.GameStream.ResponseDocument

/-! The two readers of an answer's status, the one for server information and pairing and the strict
one: what each makes of a document, and on which documents they agree.
-/

namespace VitaMoonlight

open Library Library.CText

/-- Digits end where something else follows, by induction on them. -/
theorem digitsValue_append (digits rest : List UInt8) (value : Nat)
    (all : ∀ c ∈ digits, isDigit c = true) (stop : ∀ c ∈ rest.head?, isDigit c = false)
    : digitsValue value (digits ++ rest) = digitsValue value digits := by
  induction digits generalizing value with
  | nil =>
      cases rest with
      | nil => rfl
      | cons c rest =>
          simp [digitsValue, stop c rfl]
  | cons c digits ih =>
      rw [List.forall_mem_cons] at all
      rw [List.cons_append, digitsValue, digitsValue, if_pos all.1, if_pos all.1, ih _ all.2]

theorem isXmlSpace_isSpace {c : UInt8} (space : isXmlSpace c = true) : isSpace c = true := by
  simp only [isXmlSpace, Bool.or_eq_true, beq_iff_eq] at space
  obtain ((rfl | rfl) | rfl) | rfl := space <;> rfl

/-- `atoi` reads each number that the strict reader takes, as that number. -/
theorem atoi_of_numberText {text : List UInt8} {value : Nat} (number : NumberText text value)
    : atoi text = value := by
  obtain ⟨before, digits, after, rfl, blank, some, all, blankAfter, rfl, fits⟩ := number
  have stop := head_not_digit blankAfter
  cases digits with
  | nil => exact absurd rfl some
  | cons c rest =>
      obtain ⟨notSpace, notMinus, notPlus⟩ := isDigit_plain_head (all c List.mem_cons_self)
      rw [atoi, strtol, List.append_assoc,
        List.dropWhile_append_of_pos fun c member => isXmlSpace_isSpace (blank c member),
        List.cons_append, List.dropWhile_cons_of_neg (by simp [notSpace])]
      have read := digitsValue_append (c :: rest) after 0 all stop
      rw [List.cons_append] at read
      simp only [beq_iff_eq, notMinus, notPlus, if_false, read, clampLong]
      unfold intMax at fits
      omega

-----------------------------------------------------------------------------------------
-- The reader for server information and pairing
-----------------------------------------------------------------------------------------

/-- The status code that an element states, if it is named `root`. -/
def elementStatus (name : CString) (attributes : XmlAttributes) : Option CString :=
  if name = .ofLiteral "root" then attributes.val.lookup (.ofLiteral "status_code") else none

mutual

/-- The status codes that the elements of a tree state, in document order. -/
def statedStatuses : XmlNode → List CString
  | .element name attributes children =>
      (elementStatus name attributes).toList ++ statedStatusesAll children
  | .text _ => []

/-- The status codes that the elements of some trees state. -/
def statedStatusesAll : List XmlNode → List CString
  | [] => []
  | child :: rest => statedStatuses child ++ statedStatusesAll rest

end

/-- The code behind some status codes that the first reader meets. -/
def readStatuses (code : Int) (statuses : List CString) : Int :=
  statuses.foldl (fun _ text => atoi text.bytes) code

/-- One callback of a tree, as the first reader takes it. -/
def readStatus (context : PairingError)
    (callback : Callback CString XmlAttributes (List CodePoint))
    : PairingError :=
  xmlStatusEvent context (.ofCallback callback)

/-- Attributes without a status code leave the code, by induction on them. -/
theorem statusAttributes_other (context : PairingError) (attributes : List (CString × CString))
    (others : ∀ named ∈ attributes, named.1 ≠ .ofLiteral "status_code")
    : (attributes.foldl xmlStatusAttribute context).statusCode = context.statusCode := by
  induction attributes generalizing context with
  | nil => rfl
  | cons named rest ih =>
      rw [List.forall_mem_cons] at others
      rw [List.foldl_cons, ih _ others.2, xmlStatusAttribute, if_neg others.1]
      split <;> rfl

/-- What the attributes of a root leave of the code, by induction on them. -/
theorem statusAttributes (context : PairingError) (attributes : List (CString × CString))
    (distinct : (attributes.map Prod.fst).Nodup)
    : (attributes.foldl xmlStatusAttribute context).statusCode
      = readStatuses context.statusCode
          (attributes.lookup (.ofLiteral "status_code")).toList := by
  induction attributes generalizing context with
  | nil => rfl
  | cons named rest ih =>
      rw [List.map_cons, List.nodup_cons] at distinct
      rw [List.foldl_cons, List.lookup_cons]
      by_cases status : named.1 = .ofLiteral "status_code"
      · have others : ∀ other ∈ rest, other.1 ≠ .ofLiteral "status_code" := by
          intro other member same
          exact distinct.1 (status ▸ same ▸ List.mem_map_of_mem member)
        rw [statusAttributes_other _ rest others, xmlStatusAttribute, if_pos status, status]
        simp [readStatuses]
      · have same : (xmlStatusAttribute context named).statusCode = context.statusCode := by
          rw [xmlStatusAttribute, if_neg status]
          split <;> rfl
        rw [ih _ distinct.2, same, beq_false_of_ne (Ne.symm status)]

/-- Trees are read one after the other, when each is read as its statuses. -/
theorem visitAll_readStatus (children : List XmlNode)
    (each
      : ∀ child ∈ children, ∀ context : PairingError,
          (child.visit readStatus context).statusCode
          = readStatuses context.statusCode (statedStatuses child))
    (context : PairingError)
    : (Node.visitAll readStatus context children).statusCode
      = readStatuses context.statusCode (statedStatusesAll children) := by
  induction children generalizing context with
  | nil => simp [Node.visitAll, statedStatusesAll, readStatuses]
  | cons child rest ih =>
      obtain ⟨first, others⟩ := List.forall_mem_cons.1 each
      change (Node.visitAll readStatus (child.visit readStatus context) rest).statusCode = _
      rw [ih others, first context, statedStatusesAll, readStatuses, readStatuses, readStatuses,
        List.foldl_append]

/-- The first reader keeps the last status code of any element named `root`, by induction on the
tree.
-/
theorem visit_readStatus (node : XmlNode)
    : ∀ context : PairingError,
        (node.visit readStatus context).statusCode
        = readStatuses context.statusCode (statedStatuses node) := by
  induction node using Node.induct with
  | text data =>
      intro context
      rw [Node.visit_text, statedStatuses]
      rfl
  | element name attributes children ih =>
      intro context
      have start
          : (readStatus context (.start name attributes)).statusCode
            = readStatuses context.statusCode (elementStatus name attributes).toList := by
        change (if name = .ofLiteral "root" then attributes.val.foldl xmlStatusAttribute context
          else context).statusCode = _
        unfold elementStatus
        split
        · exact statusAttributes context attributes.val attributes.property
        · rfl
      rw [Node.visit_element, statedStatuses]
      change (Node.visitAll readStatus (readStatus context (.start name attributes))
        children).statusCode = _
      rw [visitAll_readStatus children ih, start, readStatuses, readStatuses, readStatuses,
        List.foldl_append]

/-- The status of a document is the last one that any element named `root` states. -/
theorem status_document (root : XmlRoot)
    : (ResponseText.wellFormed false root).document.status
      = readStatuses 0 (statedStatuses root.node) := by
  rw [XmlDocument.status]
  have events
      : (ResponseText.wellFormed false root).document.events.foldl xmlStatusEvent {}
        = root.node.visit readStatus {} := by
    change (root.node.callbacks.map XmlEvent.ofCallback).foldl xmlStatusEvent {} = _
    rw [List.foldl_map]
    rfl
  rw [events, visit_readStatus]

-----------------------------------------------------------------------------------------
-- The strict reader
-----------------------------------------------------------------------------------------

/-- A step of the strict reader that leaves the root it has seen and its status. -/
structure KeepsRoot (before after : ParseContext) : Prop where
  status : after.response.statusCode = before.response.statusCode
  seen : after.rootSeen = before.rootSeen

namespace KeepsRoot

variable {first second third : ParseContext}

theorem refl (context : ParseContext) : KeepsRoot context context := ⟨rfl, rfl⟩

theorem trans (earlier : KeepsRoot first second) (later : KeepsRoot second third)
    : KeepsRoot first third :=
  ⟨later.status.trans earlier.status, later.seen.trans earlier.seen⟩

theorem startInList (context : ParseContext) (name : CString)
    : KeepsRoot context (context.startInList name) := by
  unfold ParseContext.startInList
  split_ifs <;> exact ⟨rfl, rfl⟩

theorem startInScalar (context : ParseContext) (resultField name : CString)
    : KeepsRoot context (context.startInScalar resultField name) := by
  unfold ParseContext.startInScalar
  split_ifs <;> exact ⟨rfl, rfl⟩

theorem startElement (mode : ParseMode) {context : ParseContext} (seen : context.rootSeen = true)
    (name : CString) (attributes : List (CString × CString))
    : KeepsRoot context (context.startElement mode name attributes) := by
  unfold ParseContext.startElement
  dsimp only
  split_ifs
  · exact .refl context
  · unfold ParseContext.startRoot
    rw [if_pos (.inl seen)]
    exact ⟨rfl, rfl⟩
  · exact ⟨rfl, rfl⟩
  · exact ⟨rfl, rfl⟩
  · cases mode with
    | list capacity =>
        have now := startInList { context with depth := context.depth + 1 } name
        exact ⟨now.status, now.seen⟩
    | scalar resultField =>
        have now := startInScalar { context with depth := context.depth + 1 } resultField name
        exact ⟨now.status, now.seen⟩

theorem endField (context : ParseContext) : KeepsRoot context context.endField := by
  unfold ParseContext.endField
  dsimp only
  split
  · exact ⟨rfl, rfl⟩
  · exact ⟨rfl, rfl⟩
  · split <;> exact ⟨rfl, rfl⟩
  · split <;> exact ⟨rfl, rfl⟩
  · split <;> exact ⟨rfl, rfl⟩

theorem endElement (mode : ParseMode) (context : ParseContext) (name : CString)
    : KeepsRoot context (context.endElement mode name) := by
  unfold ParseContext.endElement
  split_ifs with invalid ends
  · exact .refl context
  · refine trans (endField context) ?_
    cases mode with
    | list capacity =>
        dsimp only
        split_ifs <;> exact ⟨rfl, rfl⟩
    | scalar resultField => exact ⟨rfl, rfl⟩
  · cases mode with
    | list capacity =>
        dsimp only
        split_ifs <;> exact ⟨rfl, rfl⟩
    | scalar resultField => exact ⟨rfl, rfl⟩

theorem characterData (context : ParseContext) (data : List UInt8)
    : KeepsRoot context (context.characterData data) := by
  unfold ParseContext.characterData
  dsimp only
  split_ifs <;> exact ⟨rfl, rfl⟩

/-- No callback behind the start of the root changes its status. -/
theorem respond (mode : ParseMode) {context : ParseContext} (seen : context.rootSeen = true)
    (callback : Callback CString XmlAttributes (List CodePoint))
    : KeepsRoot context (respond mode context callback) := by
  cases callback with
  | start name attributes => exact startElement mode seen name attributes.val
  | text data => exact characterData context _
  | finish name => exact endElement mode context name

/-- Nothing behind the start of the root changes its status, by induction on the callbacks. -/
theorem foldl_respond (mode : ParseMode)
    (callbacks : List (Callback CString XmlAttributes (List CodePoint))) {context : ParseContext}
    (seen : context.rootSeen = true)
    : KeepsRoot context (callbacks.foldl (VitaMoonlight.respond mode) context) := by
  induction callbacks generalizing context with
  | nil => exact .refl context
  | cons callback rest ih =>
      have now := respond mode seen callback
      exact trans now (ih (now.seen.trans seen))

end KeepsRoot

/-- A rejected document keeps the status it had. -/
theorem respond_invalid_status (mode : ParseMode) {context : ParseContext}
    (invalid : context.invalid = true)
    (callback : Callback CString XmlAttributes (List CodePoint))
    : respond mode context callback = context := by
  cases callback <;>
    simp [respond, XmlEvent.ofCallback, ParseContext.onEvent, ParseContext.startElement,
      ParseContext.endElement, ParseContext.characterData, invalid]

theorem foldl_respond_invalid (mode : ParseMode)
    (callbacks : List (Callback CString XmlAttributes (List CodePoint))) {context : ParseContext}
    (invalid : context.invalid = true)
    : callbacks.foldl (respond mode) context = context := by
  induction callbacks with
  | nil => rfl
  | cons callback rest ih => rw [List.foldl_cons, respond_invalid_status mode invalid, ih]

/-- The status that the strict reader takes from the root of a document, zero if it takes none. -/
def strictStatus (root : XmlRoot) : Int :=
  match elementStatus root.name root.attributes with
  | some text => ((parseNumber text).getD 0 : Nat)
  | none => 0

/-- The status in the response is the one of the root. -/
theorem parseResponse_status (mode : ParseMode) (root : XmlRoot)
    : (parseResponse mode (ResponseText.wellFormed false root).document none).1.response.statusCode
      = strictStatus root := by
  rw [parseResponse_tree]
  change (List.foldl (respond mode) {} root.node.callbacks).response.statusCode = _
  rw [XmlRoot.node, Node.callbacks, List.cons_append, List.foldl_cons]
  change (List.foldl (respond mode)
    (ParseContext.startRoot { depth := 1 } root.name root.attributes.val) _).response.statusCode = _
  unfold ParseContext.startRoot strictStatus elementStatus
  by_cases named : root.name = .ofLiteral "root"
  · rw [if_neg (by simp [named]), if_pos named]
    obtain ⟨message, read⟩ :=
      ParseContext.rootAttributes { depth := 1, rootSeen := true } root.attributes.val
        root.attributes.property
    dsimp only
    rw [read]
    cases found : root.attributes.val.lookup (.ofLiteral "status_code") with
    | none =>
        dsimp only
        rw [if_pos rfl, foldl_respond_invalid mode _ rfl]
        rfl
    | some text =>
        cases number : parseNumber text with
        | none =>
            simp only [number, if_true]
            rw [foldl_respond_invalid mode _ rfl]
            rfl
        | some status =>
            simp only [number]
            split
            · rw [foldl_respond_invalid mode _ rfl]
              rfl
            · rw [(KeepsRoot.foldl_respond mode _ rfl).status]
              rfl
  · rw [if_pos (.inr named), if_neg named, foldl_respond_invalid mode _ rfl]
    rfl

-----------------------------------------------------------------------------------------
-- Agreement
-----------------------------------------------------------------------------------------

/-- The readers agree whether the status is 200, and on another status that both report. -/
structure AgreeOnStatus (mode : ParseMode) (document : XmlDocument) : Prop where
  success
    : (xmlStatusOk document none).2 = .ok ()
      ↔ (parseResponse mode document none).1.response.statusCode = 200
  failure
    : (xmlStatusOk document none).2 ≠ .ok ()
      → (parseResponse mode document none).2 = .error .serverError
      → (xmlStatusOk document none).1.statusCode
        = (parseResponse mode document none).1.response.statusCode

/-- What the first reader makes of a tree. -/
theorem xmlStatusOk_tree (root : XmlRoot)
    : let document := (ResponseText.wellFormed false root).document
      xmlStatusOk document none
      = if document.status = 200 then ({}, .ok ())
        else
          (document.events.foldl xmlStatusEvent {},
            .error (if document.status = 401 then .notPaired else .failed)) := by
  intro document
  change (if document.status ≠ 200 then _ else _) = _
  rw [ite_not]
  rfl

/-- Readers that take one status from a tree agree on it. -/
theorem agreeOnStatus_of_status {mode : ParseMode} {root : XmlRoot}
    (same
      : (ResponseText.wellFormed false root).document.status = strictStatus root
        ∨ (ResponseText.wellFormed false root).document.status ≠ 200
          ∧ strictStatus root ≠ 200
          ∧ (parseResponse mode (ResponseText.wellFormed false root).document none).2
            = .error .invalid)
    : AgreeOnStatus mode (ResponseText.wellFormed false root).document := by
  have strict := parseResponse_status mode root
  have first := xmlStatusOk_tree root
  dsimp only at first
  by_cases success : (ResponseText.wellFormed false root).document.status = 200
  · rw [if_pos success] at first
    obtain same | ⟨failed, -, -⟩ := same
    · exact
        { success := iff_of_true (by rw [first]) (strict.trans (same.symm.trans success))
          failure := fun failed => absurd (by rw [first]) failed }
    · exact absurd success failed
  · rw [if_neg success] at first
    obtain same | ⟨-, other, invalid⟩ := same
    · refine ⟨iff_of_false (by rw [first]; nofun) ?_, ?_⟩
      · rw [strict, ← same]
        exact success
      · intro _ _
        rw [first, strict, ← same]
        rfl
    · refine ⟨iff_of_false (by rw [first]; nofun) (by rwa [strict]), ?_⟩
      intro _ reported
      exact absurd (invalid.symm.trans reported) nofun

/-- The readers agree on each document of which only the outermost element states a status, in
digits where `atoi` makes 200 of it.
-/
theorem status_readers_agree (mode : ParseMode) (root : XmlRoot)
    (flat : statedStatusesAll root.children = [])
    (digits
      : ∀ text,
          elementStatus root.name root.attributes = some text
          → atoi text.bytes = 200
          → ∃ status, NumberText text.bytes status)
    : AgreeOnStatus mode (ResponseText.wellFormed false root).document := by
  apply agreeOnStatus_of_status
  rw [status_document, XmlRoot.node, statedStatuses, flat, List.append_nil]
  cases stated : elementStatus root.name root.attributes with
  | none =>
      left
      simp [readStatuses, strictStatus, stated]
  | some text =>
      have first : readStatuses 0 (some text).toList = atoi text.bytes := rfl
      rw [first]
      cases number : parseNumber text with
      | some status =>
          left
          rw [atoi_of_numberText ((parseNumber_iff _ _).1 number)]
          simp [strictStatus, stated, number]
      | none =>
          have unread : ∀ status, ¬ NumberText text.bytes status := by
            intro status numeric
            rw [(parseNumber_iff _ _).2 numeric] at number
            contradiction
          right
          refine ⟨?_, by simp [strictStatus, stated, number], parseResponse_rejects_root mode ?_⟩
          · intro success
            obtain ⟨status, numeric⟩ := digits text stated success
            exact unread status numeric
          · rintro named status ⟨other, found, numeric⟩
            rw [elementStatus, if_pos named, found] at stated
            cases stated
            exact absurd numeric (unread status)

/-- A failed answer on whose code the readers agree. -/
theorem failed_answer_agrees
    : let attributes : XmlAttributes :=
        ⟨[(.ofLiteral "status_code", .ofLiteral "404")], by decide⟩
      AgreeOnStatus (.list 8)
        (ResponseText.wellFormed false ⟨.ofLiteral "root", attributes, []⟩).document := by
  intro attributes
  refine status_readers_agree (.list 8) ⟨.ofLiteral "root", attributes, []⟩ rfl ?_
  intro text stated success
  obtain rfl : CString.ofLiteral "404" = text := Option.some.inj stated
  exact absurd success (by decide)

/-- Two documents on which the readers disagree: a root within the root, whose code only the first
reader takes, and a code with a sign, which only the first reader takes for a number.
-/
theorem nested_and_signed_codes_disagree
    : let success : XmlAttributes := ⟨[(.ofLiteral "status_code", .ofLiteral "200")], by decide⟩
      let failure : XmlAttributes := ⟨[(.ofLiteral "status_code", .ofLiteral "404")], by decide⟩
      let signed : XmlAttributes := ⟨[(.ofLiteral "status_code", .ofLiteral "+200")], by decide⟩
      let inner : XmlNode := .element (.ofLiteral "root") failure []
      ¬ AgreeOnStatus (.list 8)
          (ResponseText.wellFormed false ⟨.ofLiteral "root", success, [inner]⟩).document
      ∧ ¬ AgreeOnStatus (.list 8)
            (ResponseText.wellFormed false ⟨.ofLiteral "root", signed, []⟩).document := by
  refine ⟨fun agree => ?_, fun agree => ?_⟩
  · exact absurd (agree.success.2 (by decide)) (by decide)
  · exact absurd (agree.success.1 (by decide)) (by decide)

end VitaMoonlight
