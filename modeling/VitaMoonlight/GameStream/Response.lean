import VitaMoonlight.GameStream.Xml

/-! The strict reader of application lists and of launch, resume and cancel answers
(`moonlight/gamestream_xml.c`).
-/

namespace VitaMoonlight

open Library Library.CText

/-- The `MOONLIGHT_XML_*` results other than `MOONLIGHT_XML_OK`. -/
inductive XmlError
  | invalid
  | serverError
  | outOfMemory
deriving DecidableEq

/-- `MoonlightApplication`. -/
structure MoonlightApplication where
  id : Int := 0
  name : CharArray 256 := .empty
deriving DecidableEq

/-- `MoonlightGameStreamResponse`. -/
structure GameStreamResponse where
  statusCode : Int := 0
  statusMessage : CharArray 256 := .empty
  sessionUrl : CharArray 256 := .empty
  sessionUrlPresent : Bool := false
  totalApplications : Nat := 0
deriving DecidableEq

/-- `INT_MAX`. -/
def intMax : Nat := 2147483647

/-- `is_space`. -/
def isXmlSpace (c : UInt8) : Bool := c == 32 || c == 9 || c == 13 || c == 10

/-- The digit loop of `parse_number`: the value, how many digits it read and the rest. -/
def parseDigits (result digits : Nat) : List UInt8 → Option (Nat × Nat × List UInt8)
  | [] => some (result, digits, [])
  | c :: rest =>
      if isDigit c then
        let digit := c.toNat - 48
        if result > (intMax - digit) / 10 then none
        else parseDigits (result * 10 + digit) (digits + 1) rest
      else some (result, digits, c :: rest)

/-- `parse_number`. -/
def parseNumber (text : CString) : Option Nat :=
  match parseDigits 0 0 (text.bytes.dropWhile isXmlSpace) with
  | none => none
  | some (result, digits, rest) =>
      if digits = 0 ∨ rest.dropWhile isXmlSpace ≠ [] then none else some result

/-- How many bytes the code point with this lead byte takes. -/
def codePointWidth (lead : UInt8) : Nat :=
  if lead < 0x80 then 1 else if lead < 0xe0 then 2 else if lead < 0xf0 then 3 else 4

/-- `finish_title`: the text without a clipped last code point. -/
def finishTitle (text : List UInt8) : List UInt8 :=
  if text.length = 0 then text
  else
    let start := codePointStart text (text.length - 1)
    if start + codePointWidth (text.getD start 0) > text.length then text.take start else text

/-- The session URLs an answer may carry: `rtsp://` or `rtspenc://`, something behind it and
no blank.
-/
def validSessionUrl (text : CString) : Bool :=
  ([CString.ofLiteral "rtsp://", CString.ofLiteral "rtspenc://"].any fun scheme =>
    scheme.bytes.isPrefixOf text.bytes && scheme.length < text.length)
  && !text.bytes.any isXmlSpace

-----------------------------------------------------------------------------------------
-- The parser's context
-----------------------------------------------------------------------------------------

/-- `FIELD_*`. -/
inductive XmlField
  | none
  | title
  | id
  | session
  | url
deriving DecidableEq

/-- What the caller expects: applications, of which `capacity` fit, or one result field. -/
inductive ParseMode
  | list (capacity : Nat)
  | scalar (resultField : CString)

/-- `ParseContext`, without what does not change. `text` holds the bytes before the
terminator of the array, and `apps` the applications stored so far.
-/
structure ParseContext where
  response : GameStreamResponse := {}
  apps : List MoonlightApplication := []
  app : MoonlightApplication := {}
  depth : Int := 0
  invalid : Bool := false
  rootSeen : Bool := false
  appOpen : Bool := false
  haveId : Bool := false
  haveTitle : Bool := false
  haveSession : Bool := false
  field : XmlField := .none
  fieldDepth : Int := 0
  text : List UInt8 := []
deriving DecidableEq

namespace ParseContext

/-- `reject`: the parser stops, and later callbacks do nothing. -/
def reject (context : ParseContext) : ParseContext := { context with invalid := true }

/-- `begin_field`. -/
def beginField (context : ParseContext) (field : XmlField) : ParseContext :=
  { context with field, fieldDepth := context.depth, text := [] }

/-- One attribute of the root element. -/
def rootAttribute (context : ParseContext) (named : CString × CString) : ParseContext :=
  if named.1 = .ofLiteral "status_code" then
    match parseNumber named.2 with
    | some status => { context with response := { context.response with statusCode := status } }
    | none => context.reject
  else if named.1 = .ofLiteral "status_message" then
    { context with response := { context.response with statusMessage := .copy 256 named.2 } }
  else context

/-- `start_element` at depth 1. -/
def startRoot (context : ParseContext) (name : CString) (attributes : List (CString × CString))
    : ParseContext :=
  if context.rootSeen ∨ name ≠ .ofLiteral "root" then context.reject
  else
    let after := attributes.foldl rootAttribute { context with rootSeen := true }
    if after.response.statusCode = 0 then after.reject else after

/-- `start_element` below the root of an application list. -/
def startInList (context : ParseContext) (name : CString) : ParseContext :=
  if name = .ofLiteral "App" then
    if context.depth ≠ 2 ∨ context.appOpen then context.reject
    else { context with app := {}, haveId := false, haveTitle := false, appOpen := true }
  else if context.appOpen ∧ context.depth = 3 then
    if name = .ofLiteral "ID" then
      if context.haveId then context.reject else context.beginField .id
    else if name = .ofLiteral "AppTitle" then
      if context.haveTitle then context.reject else context.beginField .title
    else context
  else context

/-- `start_element` below the root of a launch, resume or cancel answer. -/
def startInScalar (context : ParseContext) (resultField name : CString) : ParseContext :=
  if context.depth = 2 then
    if name = resultField then
      if context.haveSession then context.reject else context.beginField .session
    else if name = .ofLiteral "sessionUrl0" then
      if context.response.sessionUrlPresent then context.reject else context.beginField .url
    else context
  else context

/-- `start_element`. -/
def startElement (mode : ParseMode) (context : ParseContext) (name : CString)
    (attributes : List (CString × CString))
    : ParseContext :=
  if context.invalid then context
  else
    let context := { context with depth := context.depth + 1 }
    if context.depth = 1 then context.startRoot name attributes
    else if context.response.statusCode ≠ 200 then context
    else if context.field ≠ .none then context.reject
    else
      match mode with
      | .list _ => context.startInList name
      | .scalar resultField => context.startInScalar resultField name

/-- `character_data`. -/
def characterData (context : ParseContext) (data : List UInt8) : ParseContext :=
  if context.invalid ∨ context.field = .none then context
  else
    let available := 255 - context.text.length
    if data.length > available ∧ context.field ≠ .title then context.reject
    else { context with text := context.text ++ data.take available }

/-- The end of a field in `end_element`. -/
def endField (context : ParseContext) : ParseContext :=
  let text := CString.ofBytes context.text
  match context.field with
  | .none => context
  | .title =>
      { context with
        app := { context.app with name := .copy 256 (.ofBytes (finishTitle context.text)) }
        haveTitle := true }
  | .id =>
      match parseNumber text with
      | some id => { context with app := { context.app with id }, haveId := true }
      | none => { context.reject with haveId := true }
  | .session =>
      if parseNumber text = some 1 then { context with haveSession := true }
      else { context.reject with haveSession := true }
  | .url =>
      let response := { context.response with sessionUrlPresent := true }
      if validSessionUrl text then
        { context with
          response := { response with sessionUrl := .copy 256 text } }
      else { context.reject with response }

/-- The end of an `App` element in `end_element`, in which the application is stored. -/
def endApp (context : ParseContext) (capacity : Nat) : ParseContext :=
  { context with
    apps :=
      if context.apps.length < capacity then context.apps ++ [context.app] else context.apps
    response :=
      { context.response with totalApplications := context.response.totalApplications + 1 }
    appOpen := false }

/-- `end_element`. -/
def endElement (mode : ParseMode) (context : ParseContext) (name : CString) : ParseContext :=
  if context.invalid then context
  else
    let context :=
      if context.field ≠ .none ∧ context.depth = context.fieldDepth then
        { context.endField with field := .none }
      else context
    let ended := fun after : ParseContext => { after with depth := after.depth - 1 }
    match mode with
    | .list capacity =>
        if context.depth = 2 ∧ name = .ofLiteral "App" ∧ context.response.statusCode = 200
            ∧ !context.invalid then
          if !context.haveId || !context.haveTitle
              || context.response.totalApplications == intMax then
            context.reject
          else ended (context.endApp capacity)
        else ended context
    | .scalar _ => ended context

/-- One callback; `reject_doctype` rejects every document type declaration. -/
def onEvent (mode : ParseMode) (context : ParseContext) : XmlEvent → ParseContext
  | .startElement name attributes => context.startElement mode name attributes
  | .endElement name => context.endElement mode name
  | .characterData data => context.characterData data
  | .startDoctype => context.reject

end ParseContext

/-- `parse_response`, with the context it leaves. -/
def parseResponse (mode : ParseMode) (document : XmlDocument) (fault : Option ParserFault)
    : ParseContext × Except XmlError Unit :=
  if fault = some .notCreated then ({}, .error .outOfMemory)
  else
    let context := document.events.foldl (ParseContext.onEvent mode) {}
    let parsed := document.wellFormed && fault.isNone
    if !parsed || context.invalid || !context.rootSeen || context.depth ≠ 0 then
      (context, .error .invalid)
    else if context.response.statusCode ≠ 200 then (context, .error .serverError)
    else
      match mode with
      | .list _ => (context, .ok ())
      | .scalar _ =>
          if context.haveSession then (context, .ok ()) else (context, .error .invalid)

/-- The outputs of `moonlight_xml_parse_applications`: the response, the entries it stored into
the array, their count and the result.
-/
structure ApplicationsOutput where
  response : GameStreamResponse
  apps : List MoonlightApplication
  count : Nat
  result : Except XmlError Unit

/-- `moonlight_xml_parse_applications`. -/
def parseApplications (document : XmlDocument) (fault : Option ParserFault) (capacity : Nat)
    : ApplicationsOutput :=
  let (context, result) := parseResponse (.list capacity) document fault
  { response := context.response
    apps := context.apps
    count := match result with
      | .ok () => context.apps.length
      | .error _ => 0
    result }

/-- The readers of one result field. -/
def parseScalar (resultField : String) (document : XmlDocument) (fault : Option ParserFault)
    : GameStreamResponse × Except XmlError Unit :=
  let (context, result) := parseResponse (.scalar (.ofLiteral resultField)) document fault
  (context.response, result)

/-- `moonlight_xml_parse_launch`. -/
def parseLaunch (document : XmlDocument) (fault : Option ParserFault) (resume : Bool)
    : GameStreamResponse × Except XmlError Unit :=
  parseScalar (if resume then "resume" else "gamesession") document fault

/-- `moonlight_xml_parse_cancel`. -/
def parseCancel (document : XmlDocument) (fault : Option ParserFault)
    : GameStreamResponse × Except XmlError Unit :=
  parseScalar "cancel" document fault

end VitaMoonlight
