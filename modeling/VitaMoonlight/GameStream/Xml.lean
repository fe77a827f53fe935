import VitaMoonlight.Library.CText

/-! The GameStream answers as Expat reports them, and the lookups in
`backend/legacy/legacy_gamestream.c` that read them.
-/

namespace VitaMoonlight

open Library Library.CText

/-- The `LEGACY_GAMESTREAM_*` results other than `LEGACY_GAMESTREAM_OK`. -/
inductive GameStreamError
  | failed
  | outOfMemory
  | invalid
  | wrongState
  | ioError
  | unsupportedVersion
  | appConflict
  | notPaired
  | securityError
  | cancelled
  | internalError
  | incorrectPin
  | quitFailed
deriving DecidableEq

/-- One callback of the parser; only the strict reader asks for the document type. -/
inductive XmlEvent
  | startElement (name : CString) (attributes : List (CString × CString))
  | endElement (name : CString)
  | characterData (data : List UInt8)
  | startDoctype
deriving DecidableEq

/-- The callbacks the parser makes for a body, and whether it accepts the whole body. -/
structure XmlDocument where
  events : List XmlEvent
  wellFormed : Bool
deriving DecidableEq

/-- How a parser for one lookup can fail apart from the body. -/
inductive ParserFault
  | notCreated
  | outOfMemory
deriving DecidableEq

/-- `XML_ParserCreate` and `XML_Parse`: the callbacks made, unless something failed. -/
def XmlDocument.parse (document : XmlDocument) (fault : Option ParserFault)
    : Except GameStreamError (List XmlEvent) :=
  match fault with
  | some .notCreated => .error .outOfMemory
  | some .outOfMemory => .error .invalid
  | none => if document.wellFormed then .ok document.events else .error .invalid

/-- `XmlFindContext`, without the target and the capacity, which do not change. -/
structure XmlFindContext where
  output : List UInt8 := []
  depth : Nat := 0
  found : Bool := false

/-- `xml_find_start`, `xml_find_end` and `xml_find_text`. A second element of the same name
starts the text anew and takes no text.
-/
def xmlFindEvent (target : CString) (capacity : Nat) (context : XmlFindContext)
    : XmlEvent → XmlFindContext
  | .startElement name _ =>
      if context.depth = 0 ∧ name = target then { context with depth := 1, output := [] }
      else if context.depth > 0 then { context with depth := context.depth + 1 }
      else context
  | .endElement name =>
      if context.depth > 0 then
        { context with
          depth := context.depth - 1
          found := context.found || (context.depth == 1 && name == target) }
      else context
  | .characterData data =>
      if context.depth ≠ 1 ∨ context.found then context
      else
        { context with
          output := context.output ++ data.take (capacity - 1 - context.output.length) }
  | .startDoctype => context

/-- `xml_find_value`. -/
def xmlFindValue (document : XmlDocument) (fault : Option ParserFault) (node : CString)
    (capacity : Nat)
    : Except GameStreamError CString :=
  if capacity = 0 then .error .invalid
  else do
    let events ← document.parse fault
    let context := events.foldl (xmlFindEvent node capacity) {}
    if context.found then .ok (.ofBytes context.output) else .error .invalid

-----------------------------------------------------------------------------------------
-- The status of an answer
-----------------------------------------------------------------------------------------

/-- `LegacyGameStreamPairingError`. -/
structure PairingError where
  statusCode : Int := 0
  statusMessage : CharArray 256 := .empty
deriving DecidableEq

/-- The last position at or before the given one that does not continue a code point. -/
def codePointStart (bytes : List UInt8) : Nat → Nat
  | 0 => 0
  | position + 1 =>
      if (bytes.getD (position + 1) 0) &&& 0xc0 = 0x80 then codePointStart bytes position
      else position + 1

/-- The message that fits the array, not cut inside a code point. -/
def boundedMessage (text : CString) : CharArray 256 :=
  if text.length ≥ 256 then .copy 256 (text.take (codePointStart text.bytes 255))
  else .copy 256 text

/-- `xml_status_start`, for one attribute of a `root` element. -/
def xmlStatusAttribute (context : PairingError) (named : CString × CString) : PairingError :=
  if named.1 = .ofLiteral "status_code" then
    { context with statusCode := atoi named.2.bytes }
  else if named.1 = .ofLiteral "status_message" then
    { context with statusMessage := boundedMessage named.2 }
  else context

/-- `xml_status_start`. -/
def xmlStatusEvent (context : PairingError) : XmlEvent → PairingError
  | .startElement name attributes =>
      if name = .ofLiteral "root" then attributes.foldl xmlStatusAttribute context else context
  | .endElement _ | .characterData _ | .startDoctype => context

/-- `xml_status_ok`, with what it stores in `error`. -/
def xmlStatusOk (document : XmlDocument) (fault : Option ParserFault)
    : PairingError × Except GameStreamError Unit :=
  match document.parse fault with
  | .error error => ({}, .error error)
  | .ok events =>
      let context := events.foldl xmlStatusEvent {}
      if context.statusCode ≠ 200 then
        (context, .error (if context.statusCode = 401 then .notPaired else .failed))
      else ({}, .ok ())

/-- The status the answer's `root` element states. -/
def XmlDocument.status (document : XmlDocument) : Int :=
  (document.events.foldl xmlStatusEvent {}).statusCode

/-- An accepted status is 200 in a body the parser takes whole. -/
theorem xmlStatusOk_eq_ok {document : XmlDocument} {fault : Option ParserFault}
    {error : PairingError} (accepted : xmlStatusOk document fault = (error, .ok ()))
    : fault = none ∧ document.wellFormed = true ∧ document.status = 200 := by
  unfold xmlStatusOk XmlDocument.parse at accepted
  cases fault with
  | some fault => cases fault <;> simp at accepted
  | none =>
      cases whole : document.wellFormed with
      | false => simp [whole] at accepted
      | true =>
          simp only [whole, if_true] at accepted
          split at accepted
          · simp at accepted
          · rename_i ok
            exact ⟨rfl, rfl, not_ne_iff.mp ok⟩

end VitaMoonlight
