import VitaMoonlight.GameStream.ResponseDocument

/-! Which answers to a launch, resume or cancel request the strict reader accepts, and what it
makes of them.
-/

namespace VitaMoonlight

open Library

/-- `sessionUrl0`. -/
def sessionUrlName : CString := .ofLiteral "sessionUrl0"

/-- The content of a result field that reports success: the number 1. -/
def ResultContent (content : List XmlNode) : Prop :=
  ∃ points,
    plainText content = some points
    ∧ NumberText (CodePoint.bytesAll points) 1
    ∧ (CodePoint.bytesAll points).length ≤ 255

/-- The content of a session URL field. -/
def UrlContent (content : List XmlNode) (url : List UInt8) : Prop :=
  ∃ points,
    plainText content = some points
    ∧ url = CodePoint.bytesAll points
    ∧ url.length ≤ 255
    ∧ SessionUrl url

/-- The root of an answer to a request with a result field: the request succeeded, and the session
has the URL, if the answer gives one.
-/
structure ActionAnswer (resultField : CString) (root : XmlRoot) (url : Option (List UInt8))
    : Prop where
  name : root.name = .ofLiteral "root"
  status : root.HasStatus 200
  result : ∃ content, namedContents resultField root.children = [content] ∧ ResultContent content
  url : List.Forall₂ UrlContent (namedContents sessionUrlName root.children) url.toList

/-- The text is an answer to a request with a result field. -/
def AnswersAction (resultField : CString) (text : ResponseText) (url : Option (List UInt8))
    : Prop :=
  ∃ root, text = .wellFormed false root ∧ ActionAnswer resultField root url

/-- The success that the text of a result field reports. -/
def resultOf (text : CString) : Option Unit := if parseNumber text = some 1 then some () else none

/-- The URL that the text of a session URL field is. -/
def sessionUrlOf (text : CString) : Option (List UInt8) :=
  if validSessionUrl text = true then some text.bytes else none

theorem readText_result_iff (content : List XmlNode)
    : readText resultOf content = some () ↔ ResultContent content := by
  rw [readText_iff, ResultContent]
  refine exists_congr fun points => and_congr_right fun _ => ?_
  simp [resultOf, parseNumber_iff, CString.bytes_ofBytes (CodePoint.noNul points), and_comm]

theorem readText_url_iff (content : List XmlNode) (url : List UInt8)
    : readText sessionUrlOf content = some url ↔ UrlContent content url := by
  rw [readText_iff, UrlContent]
  refine exists_congr fun points => and_congr_right fun _ => ?_
  have same := CString.bytes_ofBytes (CodePoint.noNul points)
  simp only [sessionUrlOf, validSessionUrl_iff, same, Option.ite_none_right_eq_some,
    Option.some.injEq]
  constructor
  · rintro ⟨short, session, rfl⟩
    exact ⟨rfl, short, session⟩
  · rintro ⟨rfl, short, session⟩
    exact ⟨short, session, rfl⟩

/-- What has been read of an answer: its success and its session URL. -/
abbrev AnswerDraft := Option Unit × Option (List UInt8)

/-- One more child of the root. -/
def AnswerDraft.read (resultField : CString) : AnswerDraft → XmlNode → Option AnswerDraft :=
  readBoth (readOnce resultField (readText resultOf)) (readOnce sessionUrlName (readText sessionUrlOf))

-----------------------------------------------------------------------------------------
-- The reader
-----------------------------------------------------------------------------------------

/-- The reader is between two children of the root and has read what the draft says. -/
structure AnswerDraft.Read (draft : AnswerDraft) (context : ParseContext) : Prop where
  valid : context.invalid = false
  idle : context.field = .none
  level : context.depth = 1
  root : context.rootSeen = true
  success : context.response.statusCode = 200
  session : context.haveSession = draft.1.isSome
  present : context.response.sessionUrlPresent = draft.2.isSome
  url : context.response.sessionUrl.text.bytes = draft.2.getD []

/-- The reader has read what a draft says, or has rejected the document if there is none. -/
abbrev ReadsAnswer : Option AnswerDraft → ParseContext → Prop :=
  Node.Follows (fun context draft => draft.Read context) fun context => context.invalid = true

/-- Nothing below the children of the root is read of an answer. -/
theorem skips_in_answer (resultField : CString)
    : Node.Skips (respond (.scalar resultField))
        (fun context =>
          context.invalid = false ∧ context.field = .none ∧ context.response.statusCode = 200
          ∧ 2 ≤ context.depth)
        (fun context => context.invalid = true) (fun _ => False) where
  stays context callback := respond_invalid _ context callback
  text := fun context data here => respond_text_idle _ here.2.1 data
  enters := by
    rintro context name attributes ⟨valid, idle, success, inside⟩ -
    have entered
        : respond (.scalar resultField) context (.start name attributes)
          = { context with depth := context.depth + 1 } := by
      have deeper : context.depth + 1 ≠ 1 := by omega
      have below : context.depth + 1 ≠ 2 := by omega
      simp [respond, XmlEvent.ofCallback, ParseContext.onEvent, ParseContext.startElement,
        ParseContext.startInScalar, valid, idle, success, deeper, below]
    rw [entered]
    refine ⟨⟨valid, idle, success, by dsimp only; omega⟩, ?_⟩
    have left
        : respond (.scalar resultField) { context with depth := context.depth + 1 } (.finish name)
          = { context with depth := context.depth + 1 - 1 } := by
      simp [respond, XmlEvent.ofCallback, ParseContext.onEvent, ParseContext.endElement, valid,
        idle]
    rw [left, Int.add_sub_cancel]
  refuses _ _ _ _ refused := absurd refused id

section

variable {resultField : CString} {context : ParseContext} {draft : AnswerDraft}

theorem AnswerDraft.Read.deeper (read : draft.Read context) : context.depth + 1 = 2 := by
  rw [read.level]
  rfl

/-- The start of a child of the root, as the reader takes it. -/
theorem AnswerDraft.Read.start (read : draft.Read context) (name : CString)
    (attributes : XmlAttributes)
    : respond (.scalar resultField) context (.start name attributes)
      = if name = resultField then
          if draft.1.isSome then { context with depth := 2 }.reject
          else { context with depth := 2 }.beginField .session
        else if name = sessionUrlName then
          if draft.2.isSome then { context with depth := 2 }.reject
          else { context with depth := 2 }.beginField .url
        else { context with depth := 2 } := by
  simp only [respond, XmlEvent.ofCallback, ParseContext.onEvent, ParseContext.startElement,
    read.valid, read.deeper, read.success, read.idle, read.session, ← read.present,
    ParseContext.startInScalar, Bool.false_eq_true, if_false, ne_eq, not_true_eq_false, if_true,
    sessionUrlName]
  rfl

/-- A result field is read as the draft reads it. -/
theorem AnswerDraft.Read.result (read : draft.Read context)
    (different : resultField ≠ sessionUrlName) (attributes : XmlAttributes)
    (content : List XmlNode)
    : ReadsAnswer (draft.read resultField (.element resultField attributes content))
        (Node.visit (respond (.scalar resultField)) context
          (.element resultField attributes content)) := by
  have start := @Read.start resultField _ _ read resultField attributes
  obtain ⟨found, url⟩ := draft
  rw [if_pos rfl] at start
  rw [AnswerDraft.read, readBoth_first (readOnce_other different url attributes content)]
  cases found with
  | some success =>
      rw [Option.isSome_some, if_pos rfl] at start
      rw [readOnce_again]
      refine visit_rejected content ?_
      rw [start]
      rfl
  | none =>
      rw [Option.isSome_none, if_neg Bool.false_ne_true, ← read.deeper] at start
      rw [readOnce_first, Option.map_map]
      refine
        .map
          (visit_value (.scalar resultField) .session resultField attributes content read.valid
            read.success read.level.ge (by simp) (by simp) start (by simp) fun text _ => ?_)
      have finished
          : context.readField .session text
            = if parseNumber (.ofBytes text) = some 1 then
                { context with
                  haveSession := true
                  fieldDepth := context.depth + 1
                  text
                  field := .none }
              else
                { context.reject with
                  haveSession := true
                  fieldDepth := context.depth + 1
                  text
                  field := .none } := by
        simp only [ParseContext.readField, ParseContext.beginField, ParseContext.endField]
        split <;> rfl
      rw [resultOf, finished]
      split
      · exact { read with session := rfl, idle := rfl }
      · rfl

/-- A session URL field is read as the draft reads it. -/
theorem AnswerDraft.Read.sessionUrl (read : draft.Read context)
    (different : resultField ≠ sessionUrlName) (attributes : XmlAttributes)
    (content : List XmlNode)
    : ReadsAnswer (draft.read resultField (.element sessionUrlName attributes content))
        (Node.visit (respond (.scalar resultField)) context
          (.element sessionUrlName attributes content)) := by
  have start := @Read.start resultField _ _ read sessionUrlName attributes
  obtain ⟨session, found⟩ := draft
  rw [if_neg different.symm, if_pos rfl] at start
  rw [AnswerDraft.read,
    readBoth_second (readOnce_other different.symm session attributes content)]
  cases found with
  | some url =>
      rw [Option.isSome_some, if_pos rfl] at start
      rw [readOnce_again]
      refine visit_rejected content ?_
      rw [start]
      rfl
  | none =>
      rw [Option.isSome_none, if_neg Bool.false_ne_true, ← read.deeper] at start
      rw [readOnce_first, Option.map_map]
      refine
        .map
          (visit_value (.scalar resultField) .url sessionUrlName attributes content read.valid
            read.success read.level.ge (by simp) (by simp) start (by simp) fun text short => ?_)
      have finished
          : context.readField .url text
            = if validSessionUrl (.ofBytes text) = true then
                { context with
                  response :=
                    { context.response with
                      sessionUrlPresent := true
                      sessionUrl := .copy 256 (.ofBytes text) }
                  fieldDepth := context.depth + 1
                  text
                  field := .none }
              else
                { context.reject with
                  response := { context.response with sessionUrlPresent := true }
                  fieldDepth := context.depth + 1
                  text
                  field := .none } := by
        simp only [ParseContext.readField, ParseContext.beginField, ParseContext.endField]
        split <;> rfl
      rw [sessionUrlOf, finished]
      split
      · have fits : (CString.ofBytes text).length < 256 :=
          Nat.lt_succ_of_le (le_trans (CString.length_ofBytes_le text) short)
        have copied := congrArg CString.bytes (CharArray.text_copy_of_length_lt fits)
        exact { read with present := rfl, idle := rfl, url := copied }
      · rfl

/-- Any other element is read over. -/
theorem AnswerDraft.Read.other (read : draft.Read context) {name : CString}
    (result : name ≠ resultField) (url : name ≠ sessionUrlName) (attributes : XmlAttributes)
    (content : List XmlNode)
    : Node.visit (respond (.scalar resultField)) context (.element name attributes content)
      = context := by
  have start := @Read.start resultField _ _ read name attributes
  rw [if_neg result, if_neg url] at start
  obtain ⟨valid, idle, level, -, success, -⟩ := read
  have below :=
    (@Node.Skips.visitAll _ _ _ _ _ _ _ _ (skips_in_answer resultField) content
      { context with depth := 2 } ⟨valid, idle, success, le_rfl⟩).1 fun _ _ => id
  have left
      : respond (.scalar resultField) { context with depth := 2 } (.finish name)
        = { context with depth := 2 - 1 } := by
    simp only [respond, XmlEvent.ofCallback, ParseContext.onEvent, ParseContext.endElement, valid,
      idle, Bool.false_eq_true, if_false, ne_eq, not_true_eq_false, false_and]
  rw [Node.visit_element, start, below, left, show (2 - 1 : Int) = context.depth from level.symm]

/-- A child of the root is read as the draft reads it. -/
theorem AnswerDraft.Read.child (different : resultField ≠ sessionUrlName)
    (read : draft.Read context) (child : XmlNode)
    : ReadsAnswer (draft.read resultField child)
        (Node.visit (respond (.scalar resultField)) context child) := by
  cases child with
  | text data =>
      rw [AnswerDraft.read, Node.visit_text, respond_text_idle _ read.idle]
      exact read
  | element name attributes content =>
      by_cases result : name = resultField
      · subst result
        exact read.result different attributes content
      · by_cases url : name = sessionUrlName
        · subst url
          exact read.sessionUrl different attributes content
        · rw [read.other result url, AnswerDraft.read,
            readBoth_first (readOnce_other url _ attributes content), readOnce_other result]
          exact read

/-- What the reader makes of a root that reports success. -/
theorem parseResponse_answer (different : resultField ≠ sessionUrlName) {root : XmlRoot}
    (name : root.name = .ofLiteral "root") (success : root.HasStatus 200)
    : match root.children.foldlM (AnswerDraft.read resultField) (none, none) with
      | none =>
          (parseResponse (.scalar resultField) (ResponseText.wellFormed false root).document none).2
          = .error .invalid
      | some draft =>
          ∃ context,
            parseResponse (.scalar resultField) (ResponseText.wellFormed false root).document none
            = (context, if draft.1.isSome then .ok () else .error .invalid)
            ∧ context.response.sessionUrlPresent = draft.2.isSome
            ∧ context.response.sessionUrl.text.bytes = draft.2.getD [] := by
  obtain ⟨message, opened⟩ := respond_root (.scalar resultField) name success (by decide)
  have start : AnswerDraft.Read (none, none) (rootOpened 200 message) :=
    { valid := rfl, idle := rfl, level := rfl, root := rfl, success := rfl, session := rfl
      present := rfl, url := rfl }
  have children :=
    Node.visitAll_foldlM (respond_invalid (.scalar resultField))
      (fun _ _ child read => AnswerDraft.Read.child different read child) root.children start
  rw [parseResponse_tree, XmlRoot.node, Node.visit_element, opened]
  cases read : root.children.foldlM (AnswerDraft.read resultField) (none, none) with
  | none =>
      rw [read] at children
      exact
        ParseContext.conclude_invalid (.scalar resultField)
          (respond_invalid (.scalar resultField) _ (.finish root.name) children)
  | some draft =>
      rw [read] at children
      rw [respond_root_end _ _ children.valid children.idle children.level]
      refine ⟨_, Prod.ext rfl ?_, children.present, children.url⟩
      simp [ParseContext.conclude, children.valid, children.root, children.success,
        children.session]

/-- The children of the root are read with success exactly when the root is an answer. -/
theorem read_answer_iff {root : XmlRoot} (name : root.name = .ofLiteral "root")
    (success : root.HasStatus 200) (url : Option (List UInt8))
    : root.children.foldlM (AnswerDraft.read resultField) (none, none) = some (some (), url)
      ↔ ActionAnswer resultField root url := by
  rw [AnswerDraft.read, foldlM_readBoth_iff, foldlM_readOnce_some, foldlM_readOnce_iff]
  simp only [readText_result_iff, readText_url_iff, Option.toList_none, List.nil_append,
    exists_eq_right]
  constructor
  · rintro ⟨result, urls⟩
    exact ⟨name, success, result, urls⟩
  · rintro ⟨-, -, result, urls⟩
    exact ⟨result, urls⟩

/-- The answers are accepted, with their session URLs, and nothing else is. -/
theorem parseResponse_scalar (different : resultField ≠ sessionUrlName) (text : ResponseText)
    : ((parseResponse (.scalar resultField) text.document none).2 = .ok ()
        ↔ ∃ url, AnswersAction resultField text url)
      ∧ ∀ url,
          AnswersAction resultField text url
          → (parseResponse (.scalar resultField) text.document none).1.response.sessionUrlPresent
              = url.isSome
            ∧ (parseResponse (.scalar resultField) text.document
                none).1.response.sessionUrl.text.bytes
              = url.getD [] := by
  have accepts
      : ∀ url,
          AnswersAction resultField text url
          → ∃ context,
              parseResponse (.scalar resultField) text.document none = (context, .ok ())
              ∧ context.response.sessionUrlPresent = url.isSome
              ∧ context.response.sessionUrl.text.bytes = url.getD [] := by
    rintro url ⟨root, rfl, answer⟩
    have read := parseResponse_answer different answer.name answer.status
    rw [(read_answer_iff answer.name answer.status url).2 answer] at read
    exact read
  refine ⟨⟨fun accepted => ?_, fun ⟨url, answer⟩ => ?_⟩, fun url answer => ?_⟩
  · obtain ⟨root, rfl, name, success⟩ := parseResponse_accepted _ accepted
    have read := parseResponse_answer different name success
    cases drafted : root.children.foldlM (AnswerDraft.read resultField) (none, none) with
    | none =>
        rw [drafted] at read
        rw [read] at accepted
        contradiction
    | some draft =>
        rw [drafted] at read
        obtain ⟨context, result, -⟩ := read
        obtain ⟨session, url⟩ := draft
        rw [result] at accepted
        cases session with
        | none => contradiction
        | some => exact ⟨url, root, rfl, (read_answer_iff name success url).1 drafted⟩
  · obtain ⟨context, result, -⟩ := accepts url answer
    rw [result]
  · obtain ⟨context, result, urls⟩ := accepts url answer
    rw [result]
    exact urls

end

-----------------------------------------------------------------------------------------
-- Launch, resume and cancel
-----------------------------------------------------------------------------------------

/-- The requests that are answered with a result field. -/
inductive ActionRequest
  | launch
  | resume
  | cancel
deriving DecidableEq

namespace ActionRequest

/-- The field in which the answer states the result. -/
def resultField : ActionRequest → CString
  | .launch => .ofLiteral "gamesession"
  | .resume => .ofLiteral "resume"
  | .cancel => .ofLiteral "cancel"

/-- The reader of the answer. -/
def parse (request : ActionRequest) (text : ResponseText)
    : GameStreamResponse × Except XmlError Unit :=
  match request with
  | .launch => parseLaunch text.document none false
  | .resume => parseLaunch text.document none true
  | .cancel => parseCancel text.document none

theorem parse_eq (request : ActionRequest) (text : ResponseText)
    : request.parse text
      = ((parseResponse (.scalar request.resultField) text.document none).1.response,
          (parseResponse (.scalar request.resultField) text.document none).2) := by
  cases request <;> rfl

theorem resultField_ne_sessionUrl (request : ActionRequest)
    : request.resultField ≠ sessionUrlName := by
  cases request <;> decide

end ActionRequest

/-- An answer to a launch, resume or cancel request is accepted exactly when it reports success and
its session URL is one, if it has any. Then the response has this session URL, or none. An answer
without the result field of the request is rejected.
-/
theorem action_accepted_iff_answers (request : ActionRequest) (text : ResponseText)
    : ((request.parse text).2 = .ok () ↔ ∃ url, AnswersAction request.resultField text url)
      ∧ (∀ url,
          AnswersAction request.resultField text url
          → (request.parse text).1.sessionUrlPresent = url.isSome
            ∧ (request.parse text).1.sessionUrl.text.bytes = url.getD [])
      ∧ ∀ doctype root,
          text = .wellFormed doctype root
          → namedContents request.resultField root.children = []
          → (request.parse text).2 ≠ .ok () := by
  have scalar := parseResponse_scalar request.resultField_ne_sessionUrl text
  rw [request.parse_eq]
  refine ⟨scalar.1, scalar.2, ?_⟩
  rintro doctype root rfl absent accepted
  obtain ⟨url, other, same, answer⟩ := scalar.1.1 accepted
  obtain ⟨-, rfl⟩ := ResponseText.wellFormed.inj same
  obtain ⟨content, only, -⟩ := answer.result
  rw [absent] at only
  contradiction

/-- A launch answer whose result is the number 1 with 255 blanks behind it. -/
def paddedAnswer : XmlRoot where
  name := .ofLiteral "root"
  attributes := okAttributes
  children :=
    [.element (.ofLiteral "gamesession") noAttributes
      [.text (.one :: List.replicate 255 (.single 32 (by decide) (by decide) (by decide)))]]

set_option maxRecDepth 4000 in
/-- A result with so many blanks around it that it takes more than 255 bytes is rejected. -/
theorem padded_result_rejected
    : paddedAnswer.name = .ofLiteral "root"
      ∧ paddedAnswer.HasStatus 200
      ∧ (∃ content points,
          namedContents ActionRequest.launch.resultField paddedAnswer.children = [content]
          ∧ plainText content = some points
          ∧ NumberText (CodePoint.bytesAll points) 1)
      ∧ namedContents sessionUrlName paddedAnswer.children = []
      ∧ (ActionRequest.launch.parse (.wellFormed false paddedAnswer)).2 = .error .invalid := by
  refine ⟨rfl, ⟨.ofLiteral "200", rfl, ?_⟩, ⟨_, _, rfl, rfl, ?_⟩, rfl, rfl⟩
  · exact ⟨[], [50, 48, 48], [], rfl, by simp, by simp, by decide, by simp, rfl, by decide⟩
  · refine
      ⟨[], [49], List.replicate 255 32, rfl, by simp, by simp, by decide, ?_, rfl, by decide⟩
    intro c member
    rw [List.eq_of_mem_replicate member]
    rfl

end VitaMoonlight
