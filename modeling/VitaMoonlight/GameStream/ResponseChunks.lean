import VitaMoonlight.GameStream.ApplicationList

/-! How the parser cuts character data into callbacks, and why the strict reader cannot tell.
-/

namespace VitaMoonlight

open Library

-----------------------------------------------------------------------------------------
-- Cuts
-----------------------------------------------------------------------------------------

/-- Put character data in front of some callbacks, together with what follows directly. -/
def prependData (data : List UInt8) : List XmlEvent → List XmlEvent
  | .characterData more :: rest => .characterData (data ++ more) :: rest
  | events => if data = [] then events else .characterData data :: events

/-- The callbacks with the pieces of each character data joined. -/
def joined : List XmlEvent → List XmlEvent
  | [] => []
  | .characterData data :: rest => prependData data (joined rest)
  | .startElement name attributes :: rest => .startElement name attributes :: joined rest
  | .endElement name :: rest => .endElement name :: joined rest
  | .startDoctype :: rest => .startDoctype :: joined rest

/-- Two bodies whose callbacks differ only in how character data is cut. -/
structure SameMarkup (first second : XmlDocument) : Prop where
  events : joined first.events = joined second.events
  wellFormed : first.wellFormed = second.wellFormed

/-- Two readers in one state, or two that stopped and differ at most in the text they collected. -/
inductive SameReading : ParseContext → ParseContext → Prop
  | same (context : ParseContext) : SameReading context context
  | stopped {first second : ParseContext} (rejected : first.invalid = true)
    (others : { first with text := [] } = { second with text := [] })
    : SameReading first second

namespace SameReading

variable {first second third : ParseContext}

theorem symm (alike : SameReading first second) : SameReading second first := by
  cases alike with
  | same => exact .same _
  | stopped rejected others =>
      exact .stopped ((congrArg ParseContext.invalid others).symm.trans rejected) others.symm

theorem trans (left : SameReading first second) (right : SameReading second third)
    : SameReading first third := by
  cases left with
  | same => exact right
  | stopped rejected others =>
      cases right with
      | same => exact .stopped rejected others
      | stopped _ more => exact .stopped rejected (others.trans more)

/-- A callback keeps two readers together. -/
theorem onEvent (alike : SameReading first second) (mode : ParseMode) (event : XmlEvent)
    : SameReading (first.onEvent mode event) (second.onEvent mode event) := by
  cases alike with
  | same => exact .same _
  | stopped rejected others =>
      have stopped : second.invalid = true :=
        (congrArg ParseContext.invalid others).symm.trans rejected
      have unread
          : ∀ {context : ParseContext},
              context.invalid = true → context.onEvent mode event = context := by
        rintro ⟨⟩ rejected
        cases rejected
        cases event <;> rfl
      rw [unread rejected, unread stopped]
      exact .stopped rejected others

theorem foldl (alike : SameReading first second) (mode : ParseMode) (events : List XmlEvent)
    : SameReading (events.foldl (ParseContext.onEvent mode) first)
        (events.foldl (ParseContext.onEvent mode) second) := by
  induction events generalizing first second with
  | nil => exact alike
  | cons event rest ih => exact ih (alike.onEvent mode event)

end SameReading

-----------------------------------------------------------------------------------------
-- Joining
-----------------------------------------------------------------------------------------

/-- Character data that is read goes into the room that is left, or stops the reader. -/
theorem characterData_read {context : ParseContext} (valid : context.invalid = false)
    (opened : context.field ≠ .none) (text data : List UInt8)
    : ParseContext.characterData { context with text } data
      = if data.length > 255 - text.length ∧ context.field ≠ .title then
          { context with text, invalid := true }
        else { context with text := text ++ data.take (255 - text.length) } := by
  unfold ParseContext.characterData
  rw [if_neg (by simp [valid, opened])]
  rfl

/-- Two pieces of character data are read as one. -/
theorem characterData_append (context : ParseContext) (data more : List UInt8)
    : SameReading ((context.characterData data).characterData more)
        (context.characterData (data ++ more)) := by
  by_cases ignored : context.invalid ∨ context.field = .none
  · have skipped : ∀ data, context.characterData data = context := fun _ => if_pos ignored
    rw [skipped, skipped, skipped]
    exact .same context
  · obtain ⟨valid, opened⟩ := not_or.1 ignored
    have read := characterData_read (eq_false_of_ne_true valid) opened
    have whole := read context.text
    change ∀ data, context.characterData data = _ at whole
    have pieces
        : (context.text ++ data.take (255 - context.text.length))
            ++ more.take (255 - (context.text ++ data.take (255 - context.text.length)).length)
          = context.text ++ (data ++ more).take (255 - context.text.length) := by
      rw [List.append_assoc, List.take_append, List.length_append, List.length_take]
      congr 3
      omega
    have filled
        : (context.text ++ data.take (255 - context.text.length)).length
          = context.text.length + min (255 - context.text.length) data.length := by
      rw [List.length_append, List.length_take]
    have total : (data ++ more).length = data.length + more.length := List.length_append
    rw [whole data, whole (data ++ more)]
    by_cases long : data.length > 255 - context.text.length ∧ context.field ≠ .title
    · obtain ⟨long, other⟩ := long
      rw [if_pos ⟨long, other⟩, if_pos ⟨by omega, other⟩]
      exact .same _
    · rw [if_neg long, read]
      by_cases later
          : more.length > 255 - (context.text ++ data.take (255 - context.text.length)).length
            ∧ context.field ≠ .title
      · obtain ⟨later, other⟩ := later
        have short : data.length ≤ 255 - context.text.length :=
          not_lt.1 fun longer' => long ⟨longer', other⟩
        rw [if_pos ⟨later, other⟩, if_pos ⟨by omega, other⟩]
        exact .stopped rfl rfl
      · rw [if_neg later, if_neg, pieces]
        · exact .same _
        · rintro ⟨longer, other⟩
          have short : data.length ≤ 255 - context.text.length :=
            not_lt.1 fun longer' => long ⟨longer', other⟩
          exact later ⟨by omega, other⟩

/-- Character data in front is read as the piece it becomes part of. -/
theorem foldl_prependData (mode : ParseMode) (context : ParseContext) (data : List UInt8)
    (events : List XmlEvent)
    : SameReading
        (events.foldl (ParseContext.onEvent mode) (context.characterData data))
        ((prependData data events).foldl (ParseContext.onEvent mode) context) := by
  have nothing : context.characterData [] = context := by
    simp [ParseContext.characterData]
  have alone
      : ∀ events : List XmlEvent,
          SameReading
            (events.foldl (ParseContext.onEvent mode) (context.characterData data))
            ((if data = [] then events else .characterData data :: events).foldl
              (ParseContext.onEvent mode) context) := by
    intro events
    split
    · rename_i none
      rw [none, nothing]
      exact .same _
    · exact .same _
  unfold prependData
  split
  · exact (characterData_append context data _).foldl mode _
  · exact alone _

/-- Joining the pieces keeps what is read, by induction on the callbacks. -/
theorem foldl_joined (mode : ParseMode) (events : List XmlEvent) (context : ParseContext)
    : SameReading (events.foldl (ParseContext.onEvent mode) context)
        ((joined events).foldl (ParseContext.onEvent mode) context) := by
  induction events generalizing context with
  | nil => exact .same context
  | cons event rest ih =>
      cases event with
      | characterData data =>
          rw [joined]
          exact (ih (context.characterData data)).trans (foldl_prependData mode context data _)
      | startElement name attributes => exact ih _
      | endElement name => exact ih _
      | startDoctype => exact ih _

-----------------------------------------------------------------------------------------
-- The room for text
-----------------------------------------------------------------------------------------

/-- The collected text fits its array. -/
def TextFits (context : ParseContext) : Prop := context.text.length ≤ 255

/-- A step that keeps the text or clears it. -/
structure KeepsText (before after : ParseContext) : Prop where
  text : after.text = before.text ∨ after.text = []

namespace KeepsText

variable {first second third : ParseContext}

theorem of_eq (same : second.text = first.text) : KeepsText first second := ⟨.inl same⟩

theorem trans (earlier : KeepsText first second) (later : KeepsText second third)
    : KeepsText first third := by
  obtain same | cleared := later.text
  · exact ⟨same ▸ earlier.text⟩
  · exact ⟨.inr cleared⟩

theorem fits (keeps : KeepsText first second) (before : TextFits first) : TextFits second := by
  unfold TextFits at *
  obtain same | cleared := keeps.text
  · rwa [same]
  · simp [cleared]

theorem startRoot (context : ParseContext) (name : CString) (attributes : List (CString × CString))
    : KeepsText context (context.startRoot name attributes) := by
  have read
      : ∀ (context : ParseContext), (attributes.foldl ParseContext.rootAttribute context).text
          = context.text := by
    induction attributes with
    | nil => exact fun _ => rfl
    | cons named rest ih =>
        intro context
        rw [List.foldl_cons, ih]
        unfold ParseContext.rootAttribute
        split_ifs
        · split <;> rfl
        · rfl
        · rfl
  unfold ParseContext.startRoot
  dsimp only
  split_ifs
  · exact of_eq rfl
  · exact of_eq (read _)
  · exact of_eq (read _)

theorem startInList (context : ParseContext) (name : CString)
    : KeepsText context (context.startInList name) := by
  unfold ParseContext.startInList ParseContext.beginField
  split_ifs <;> first | exact of_eq rfl | exact ⟨.inr rfl⟩

theorem startInScalar (context : ParseContext) (resultField name : CString)
    : KeepsText context (context.startInScalar resultField name) := by
  unfold ParseContext.startInScalar ParseContext.beginField
  split_ifs <;> first | exact of_eq rfl | exact ⟨.inr rfl⟩

theorem startElement (mode : ParseMode) (context : ParseContext) (name : CString)
    (attributes : List (CString × CString))
    : KeepsText context (context.startElement mode name attributes) := by
  unfold ParseContext.startElement
  dsimp only
  split_ifs
  · exact of_eq rfl
  · exact ⟨(startRoot { context with depth := context.depth + 1 } name attributes).text⟩
  · exact of_eq rfl
  · exact of_eq rfl
  · cases mode with
    | list capacity =>
        exact ⟨(startInList { context with depth := context.depth + 1 } name).text⟩
    | scalar resultField =>
        exact
          ⟨(startInScalar { context with depth := context.depth + 1 } resultField name).text⟩

theorem endField (context : ParseContext) : KeepsText context context.endField := by
  unfold ParseContext.endField
  dsimp only
  split
  · exact of_eq rfl
  · exact of_eq rfl
  · split <;> exact of_eq rfl
  · split <;> exact of_eq rfl
  · split <;> exact of_eq rfl

theorem endElement (mode : ParseMode) (context : ParseContext) (name : CString)
    : KeepsText context (context.endElement mode name) := by
  unfold ParseContext.endElement
  split_ifs with invalid ends
  · exact of_eq rfl
  · refine trans (endField context) ?_
    cases mode with
    | list capacity =>
        dsimp only
        split_ifs <;> exact of_eq rfl
    | scalar resultField => exact of_eq rfl
  · cases mode with
    | list capacity =>
        dsimp only
        split_ifs <;> exact of_eq rfl
    | scalar resultField => exact of_eq rfl

end KeepsText

theorem textFits_onEvent (mode : ParseMode) {context : ParseContext} (before : TextFits context)
    (event : XmlEvent)
    : TextFits (context.onEvent mode event) := by
  cases event with
  | startElement name attributes =>
      exact (KeepsText.startElement mode context name attributes).fits before
  | endElement name => exact (KeepsText.endElement mode context name).fits before
  | startDoctype => exact before
  | characterData data =>
      change TextFits (context.characterData data)
      unfold ParseContext.characterData
      dsimp only
      unfold TextFits at *
      split_ifs
      · exact before
      · exact before
      · rw [List.length_append, List.length_take]
        omega

/-- The collected text always fits its array. -/
theorem textFits_foldl (mode : ParseMode) (events : List XmlEvent)
    : TextFits (events.foldl (ParseContext.onEvent mode) {}) :=
  List.foldlRecOn events (ParseContext.onEvent mode) (Nat.zero_le _) fun _ before event _ =>
    textFits_onEvent mode before event

/-- What callers see of a response: the result, the response and the applications stored. -/
def outputs (parsed : ParseContext × Except XmlError Unit)
    : Except XmlError Unit × GameStreamResponse × List MoonlightApplication :=
  (parsed.2, parsed.1.response, parsed.1.apps)

/-- Bodies with the same markup have the same outputs. -/
theorem outputs_congr {first second : XmlDocument} (same : SameMarkup first second)
    (mode : ParseMode) (fault : Option ParserFault)
    : outputs (parseResponse mode first fault) = outputs (parseResponse mode second fault) := by
  have together
      : SameReading (first.events.foldl (ParseContext.onEvent mode) {})
          (second.events.foldl (ParseContext.onEvent mode) {}) := by
    have left := foldl_joined mode first.events {}
    rw [same.events] at left
    exact left.trans (foldl_joined mode second.events {}).symm
  unfold parseResponse
  by_cases missing : fault = some .notCreated
  · rw [if_pos missing, if_pos missing]
  · rw [if_neg missing, if_neg missing, same.wellFormed]
    generalize first.events.foldl (ParseContext.onEvent mode) {} = left at together
    generalize second.events.foldl (ParseContext.onEvent mode) {} = right at together
    cases together with
    | same => rfl
    | stopped rejected others =>
        have stopped := (congrArg ParseContext.invalid others).symm.trans rejected
        have response := congrArg ParseContext.response others
        have apps := congrArg ParseContext.apps others
        dsimp only at stopped response apps
        simp [rejected, stopped, outputs, response, apps]

-----------------------------------------------------------------------------------------
-- Titles and other fields
-----------------------------------------------------------------------------------------

/-- The entry is stored with its number and the longest part of its title that fits. -/
structure StoresApplication (stored : MoonlightApplication) (entry : ListedApplication) : Prop where
  id : stored.id = entry.id
  name
    : ∃ kept,
        CodePoint.LongestFitting 255 entry.title kept
        ∧ stored.name.text.bytes = CodePoint.bytesAll kept

theorem ListedApplication.storesApplication (entry : ListedApplication)
    : StoresApplication entry.stored entry := by
  obtain ⟨id, name⟩ := Prod.ext_iff.1 entry.stored_eq
  exact ⟨id, _, CodePoint.longestFitting_clip 255 entry.title, name⟩

/-- However the titles of a list are cut, its entries are stored. -/
theorem parseApplications_stores {text : ResponseText} {entries : List ListedApplication}
    {document : XmlDocument} (capacity : Nat) (small : text.elements ≤ intMax)
    (answers : AnswersApplications text entries) (same : SameMarkup document text.document)
    : (parseApplications document none capacity).result = .ok ()
      ∧ List.Forall₂ StoresApplication (parseApplications document none capacity).apps
          (entries.take capacity) := by
  obtain ⟨root, rfl, list⟩ := answers
  have read := @parseResponse_list capacity _ list.name list.status
  rw [(read_list_iff list.name list.status small entries).2 list] at read
  obtain ⟨context, whole, apps, -⟩ := read
  have cut := outputs_congr same (.list capacity) none
  rw [whole] at cut
  simp only [outputs, Prod.mk.injEq] at cut
  obtain ⟨result, -, stored⟩ := cut
  refine ⟨result, ?_⟩
  change List.Forall₂ StoresApplication (parseResponse (.list capacity) document none).1.apps _
  rw [stored, apps, List.forall₂_map_left_iff, List.forall₂_same]
  exact fun entry _ => entry.storesApplication

/-- The pieces of a field's text are read as one text, by induction on them. -/
theorem foldl_characterData (mode : ParseMode) (chunks : List (List UInt8)) (context : ParseContext)
    : SameReading
        ((chunks.map XmlEvent.characterData).foldl (ParseContext.onEvent mode) context)
        (context.characterData chunks.flatten) := by
  induction chunks generalizing context with
  | nil =>
      have nothing : context.characterData [] = context := by
        simp [ParseContext.characterData]
      rw [List.flatten_nil, nothing]
      exact .same context
  | cons chunk rest ih =>
      exact (ih (context.characterData chunk)).trans (characterData_append context chunk _)

/-- A field other than a title is rejected if its pieces are too long together. -/
theorem parseResponse_long_field (mode : ParseMode) {fault : Option ParserFault}
    {before after : List XmlEvent} {chunks : List (List UInt8)} (wellFormed : Bool)
    (created : fault ≠ some .notCreated)
    (opened : (before.foldl (ParseContext.onEvent mode) {}).field ≠ .none)
    (other : (before.foldl (ParseContext.onEvent mode) {}).field ≠ .title)
    (long
      : 255 < (before.foldl (ParseContext.onEvent mode) {}).text.length + chunks.flatten.length)
    : (parseResponse mode ⟨before ++ chunks.map .characterData ++ after, wellFormed⟩ fault).2
      = .error .invalid := by
  have read := foldl_characterData mode chunks (before.foldl (ParseContext.onEvent mode) {})
  have rejected
      : ((before.foldl (ParseContext.onEvent mode) {}).characterData chunks.flatten).invalid
        = true := by
    have room : (before.foldl (ParseContext.onEvent mode) {}).text.length ≤ 255 :=
      textFits_foldl mode before
    generalize before.foldl (ParseContext.onEvent mode) {} = context at *
    cases valid : context.invalid with
    | true => rw [ParseContext.characterData, if_pos (.inl valid), valid]
    | false =>
        have whole := characterData_read valid opened context.text chunks.flatten
        rw [if_pos ⟨by omega, other⟩] at whole
        exact congrArg ParseContext.invalid whole
  have stopped
      : ((before ++ chunks.map XmlEvent.characterData ++ after).foldl
            (ParseContext.onEvent mode) {}).invalid
        = true := by
    rw [List.foldl_append, List.foldl_append]
    refine List.foldlRecOn after (ParseContext.onEvent mode) ?_ fun context rejected event _ =>
      context.onEvent_invalid mode event rejected
    generalize (chunks.map XmlEvent.characterData).foldl _ _ = left at read
    cases read with
    | same => exact rejected
    | stopped invalid _ => exact invalid
  unfold parseResponse
  rw [if_neg created]
  dsimp only
  rw [stopped, Bool.or_true]
  rfl

/-- How the parser cuts character data does not matter: bodies with the same markup have the same
outputs; of every title of a list the longest part that fits is stored; and any other field that is
too long is rejected.
-/
theorem chunks_do_not_matter
    : (∀ (mode : ParseMode) (fault : Option ParserFault) (first second : XmlDocument),
        SameMarkup first second
        → outputs (parseResponse mode first fault) = outputs (parseResponse mode second fault))
      ∧ (∀ (capacity : Nat) (text : ResponseText) (entries : List ListedApplication)
            (document : XmlDocument),
          text.elements ≤ intMax
          → AnswersApplications text entries
          → SameMarkup document text.document
          → (parseApplications document none capacity).result = .ok ()
            ∧ List.Forall₂ StoresApplication (parseApplications document none capacity).apps
                (entries.take capacity))
      ∧ ∀ (mode : ParseMode) (fault : Option ParserFault) (before after : List XmlEvent)
          (chunks : List (List UInt8)) (wellFormed : Bool),
          let context := before.foldl (ParseContext.onEvent mode) {}
          fault ≠ some .notCreated
          → context.field ≠ .none
          → context.field ≠ .title
          → 255 < context.text.length + chunks.flatten.length
          → (parseResponse mode ⟨before ++ chunks.map .characterData ++ after, wellFormed⟩ fault).2
            = .error .invalid :=
  ⟨fun mode fault _ _ same => outputs_congr same mode fault,
    fun capacity _ _ _ small answers same => parseApplications_stores capacity small answers same,
    fun mode _ _ _ _ wellFormed created opened other long =>
      parseResponse_long_field mode wellFormed created opened other long⟩

/-- The letter é. -/
def letterE : CodePoint where
  lead := 195
  tail := [169]
  nonzero := by decide
  leads := by decide
  width := rfl
  continued := by
    intro byte member
    obtain rfl := List.mem_singleton.1 member
    decide

/-- 254 letters a and an é, whose second byte does not fit. -/
def accentedTitle : List CodePoint := List.replicate 254 letterA ++ [letterE]

/-- The list of one application with this title, cut inside the é. -/
def cutTitle : XmlDocument where
  events :=
    [.startElement (.ofLiteral "root") okAttributes.val, .startElement appName [],
      .startElement idName [], .characterData [49], .endElement idName,
      .startElement titleName [], .characterData (List.replicate 254 97 ++ [195]),
      .characterData [169], .endElement titleName, .endElement appName,
      .endElement (.ofLiteral "root")]
  wellFormed := true

theorem cutTitle_sameMarkup
    : SameMarkup cutTitle (ResponseText.wellFormed false (titled accentedTitle)).document :=
  ⟨by decide +kernel, rfl⟩

/-- A title cut inside a code point is stored without it, and a number of 256 digits in two pieces
is rejected.
-/
theorem cutTitle_stored
    : (outputs (parseResponse (.list 1) cutTitle none)
        = outputs
            (parseResponse (.list 1)
              (ResponseText.wellFormed false (titled accentedTitle)).document none))
      ∧ List.Forall₂ StoresApplication (parseApplications cutTitle none 1).apps
          [{ id := 1, title := accentedTitle }]
      ∧ (parseResponse (.list 1)
            ⟨cutTitle.events.take 3
                ++ [List.replicate 255 48, [49]].map .characterData ++ cutTitle.events.drop 4,
              true⟩
            none).2
        = .error .invalid :=
  ⟨chunks_do_not_matter.1 _ _ _ _ cutTitle_sameMarkup,
    (chunks_do_not_matter.2.1 1 _ _ _ (by decide) (titled_lists accentedTitle)
      cutTitle_sameMarkup).2,
    chunks_do_not_matter.2.2 _ _ _ _ _ _ (by decide) (by decide +kernel) (by decide +kernel)
      (by decide +kernel)⟩

end VitaMoonlight
