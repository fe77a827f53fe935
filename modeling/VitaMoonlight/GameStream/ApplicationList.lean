import VitaMoonlight.GameStream.ResponseDocument

/-! Which application lists the strict reader accepts, and what it makes of them.
-/

namespace VitaMoonlight

open Library

/-- `App`. -/
def appName : CString := .ofLiteral "App"

/-- `ID`. -/
def idName : CString := .ofLiteral "ID"

/-- `AppTitle`. -/
def titleName : CString := .ofLiteral "AppTitle"

/-- An application of a list: its number and its title. -/
structure ListedApplication where
  id : Nat
  title : List CodePoint

/-- The content of an `ID` field. -/
def IdContent (content : List XmlNode) (id : Nat) : Prop :=
  ∃ points,
    plainText content = some points
    ∧ NumberText (CodePoint.bytesAll points) id
    ∧ (CodePoint.bytesAll points).length ≤ 255

/-- The content of an `App` element that lists an application. -/
structure ListsApplication (content : List XmlNode) (entry : ListedApplication) : Prop where
  id : ∃ field, namedContents idName content = [field] ∧ IdContent field entry.id
  title : ∃ field, namedContents titleName content = [field] ∧ plainText field = some entry.title

/-- The names of the elements below a node. -/
def namesBelow : XmlNode → List CString
  | .element _ _ content => Node.namesAll content
  | .text _ => []

/-- The root of an application list: its `App` elements are its children, and each lists an
application.
-/
structure ApplicationList (root : XmlRoot) (entries : List ListedApplication) : Prop where
  name : root.name = .ofLiteral "root"
  status : root.HasStatus 200
  direct : ∀ child ∈ root.children, appName ∉ namesBelow child
  entries : List.Forall₂ ListsApplication (namedContents appName root.children) entries

/-- The text is a list of applications. -/
def AnswersApplications (text : ResponseText) (entries : List ListedApplication) : Prop :=
  ∃ root, text = .wellFormed false root ∧ ApplicationList root entries

-----------------------------------------------------------------------------------------
-- Reading the children of an application
-----------------------------------------------------------------------------------------

/-- What has been read of an application: its number and its title. -/
abbrev ApplicationDraft := Option Nat × Option (List CodePoint)

/-- One more child of an `App` element. -/
def ApplicationDraft.read : ApplicationDraft → XmlNode → Option ApplicationDraft :=
  readUnless (fun child => appName ∈ child.names)
    (readBoth (readOnce idName (readText parseNumber)) (readOnce titleName plainText))

theorem readText_id_iff (content : List XmlNode) (id : Nat)
    : readText parseNumber content = some id ↔ IdContent content id := by
  rw [readText_iff, IdContent]
  refine exists_congr fun points => and_congr_right fun _ => ?_
  rw [parseNumber_iff, CString.bytes_ofBytes (CodePoint.noNul points), and_comm]

/-- The children of an `App` element are read with a number and a title exactly when it lists an
application with them.
-/
theorem read_application_iff (content : List XmlNode) (entry : ListedApplication)
    : content.foldlM ApplicationDraft.read (none, none) = some (some entry.id, some entry.title)
      ↔ appName ∉ Node.namesAll content ∧ ListsApplication content entry := by
  rw [ApplicationDraft.read, foldlM_readUnless_iff, foldlM_readBoth_iff, foldlM_readOnce_some,
    foldlM_readOnce_some]
  simp only [readText_id_iff, Node.mem_namesAll, not_exists, not_and]
  refine and_congr_right fun _ => ?_
  constructor
  · rintro ⟨id, title⟩
    exact ⟨id, title⟩
  · rintro ⟨id, title⟩
    exact ⟨id, title⟩

/-- One more child of the root of a list. -/
def readListed (entries : List ListedApplication) : XmlNode → Option (List ListedApplication)
  | .text _ => some entries
  | .element name _ content =>
      if name = appName then
        match content.foldlM ApplicationDraft.read (none, none) with
        | some (some id, some title) =>
            if entries.length = intMax then none else some (entries ++ [{ id, title }])
        | _ => none
      else if appName ∈ Node.namesAll content then none
      else some entries

theorem readListed_app_iff {attributes : XmlAttributes} {content : List XmlNode}
    {entries next : List ListedApplication}
    : readListed entries (.element appName attributes content) = some next
      ↔ appName ∉ Node.namesAll content
        ∧ ∃ entry,
            ListsApplication content entry
            ∧ entries.length ≠ intMax
            ∧ entries ++ [entry] = next := by
  rw [readListed, if_pos rfl]
  constructor
  · intro read
    split at read
    · rename_i id title drafted
      obtain ⟨direct, listed⟩ := (read_application_iff content ⟨id, title⟩).1 drafted
      split at read
      · contradiction
      · rename_i room
        exact ⟨direct, ⟨id, title⟩, listed, room, Option.some.inj read⟩
    · contradiction
  · rintro ⟨direct, entry, listed, room, rfl⟩
    rw [(read_application_iff content entry).2 ⟨direct, listed⟩]
    exact if_neg room

theorem readListed_other_iff {name : CString} (other : name ≠ appName)
    {attributes : XmlAttributes} {content : List XmlNode} {entries next : List ListedApplication}
    : readListed entries (.element name attributes content) = some next
      ↔ appName ∉ Node.namesAll content ∧ entries = next := by
  rw [readListed, if_neg other]
  by_cases nested : appName ∈ Node.namesAll content
  · simp [nested]
  · simp [nested]

/-- The children of the root are read exactly when they list applications, at most `INT_MAX`. By
induction on the children.
-/
theorem foldlM_readListed_iff (children : List XmlNode) (entries next : List ListedApplication)
    (room : entries.length ≤ intMax)
    : children.foldlM readListed entries = some next
      ↔ (∀ child ∈ children, appName ∉ namesBelow child)
        ∧ ∃ listed,
            List.Forall₂ ListsApplication (namedContents appName children) listed
            ∧ entries ++ listed = next
            ∧ next.length ≤ intMax := by
  induction children generalizing entries with
  | nil =>
      simp only [namedContents, List.filterMap_nil, List.forall₂_nil_left_iff, exists_eq_left,
        List.append_nil, List.not_mem_nil, false_implies, implies_true, true_and]
      constructor
      · intro read
        obtain rfl := Option.some.inj read
        exact ⟨rfl, room⟩
      · rintro ⟨rfl, -⟩
        rfl
  | cons child rest ih =>
      rw [List.foldlM_cons, List.forall_mem_cons]
      cases child with
      | text data =>
          have outside : appName ∉ namesBelow (.text data) := List.not_mem_nil
          have contents
              : namedContents appName (.text data :: rest) = namedContents appName rest := rfl
          rw [and_iff_right outside, contents]
          exact ih entries room
      | element name attributes content =>
          rw [Option.bind_eq_bind, Option.bind_eq_some_iff]
          by_cases app : name = appName
          · subst app
            have contents
                : namedContents appName (.element appName attributes content :: rest)
                  = content :: namedContents appName rest := by
              simp [namedContents, contentOf]
            simp only [readListed_app_iff, contents]
            constructor
            · rintro ⟨_, ⟨direct, entry, listed, more, rfl⟩, read⟩
              have fits : (entries ++ [entry]).length ≤ intMax := by
                rw [List.length_append, List.length_singleton]
                omega
              obtain ⟨others, all, forall_listed, rfl, small⟩ := (ih _ fits).1 read
              exact
                ⟨⟨direct, others⟩, entry :: all, .cons listed forall_listed, by simp, small⟩
            · rintro ⟨⟨direct, others⟩, all, forall_listed, rfl, small⟩
              obtain ⟨entry, later, listed, rest_listed, rfl⟩ :=
                List.forall₂_cons_left_iff.1 forall_listed
              rw [List.length_append, List.length_cons] at small
              have fits : (entries ++ [entry]).length ≤ intMax := by
                rw [List.length_append, List.length_singleton]
                omega
              refine ⟨_, ⟨direct, entry, listed, by omega, rfl⟩, (ih _ fits).2 ?_⟩
              refine ⟨others, later, rest_listed, by simp, ?_⟩
              rw [List.length_append, List.length_cons]
              exact small
          · have contents
                : namedContents appName (.element name attributes content :: rest)
                  = namedContents appName rest := by
              simp [namedContents, contentOf, app]
            simp only [readListed_other_iff app, contents]
            constructor
            · rintro ⟨_, ⟨direct, rfl⟩, read⟩
              obtain ⟨others, listed⟩ := (ih entries room).1 read
              exact ⟨⟨direct, others⟩, listed⟩
            · rintro ⟨⟨direct, others⟩, listed⟩
              exact ⟨entries, ⟨direct, rfl⟩, (ih entries room).2 ⟨others, listed⟩⟩

-----------------------------------------------------------------------------------------
-- The reader inside an application
-----------------------------------------------------------------------------------------

/-- Nothing is read of an element that is no field, but an `App` element in it is rejected. -/
theorem skips_in_list (capacity : Nat)
    : Node.Skips (respond (.list capacity))
        (fun context =>
          context.invalid = false ∧ context.field = .none ∧ context.response.statusCode = 200
          ∧ 2 ≤ context.depth ∧ (context.appOpen = true → 3 ≤ context.depth))
        (fun context => context.invalid = true) (· = appName) where
  stays context callback := respond_invalid _ context callback
  text := fun context data here => respond_text_idle _ here.2.1 data
  enters := by
    rintro context name attributes ⟨valid, idle, success, inside, below⟩ other
    have entered
        : respond (.list capacity) context (.start name attributes)
          = { context with depth := context.depth + 1 } := by
      have deeper : context.depth + 1 ≠ 1 := by omega
      have notApp : name ≠ .ofLiteral "App" := other
      have noField : ¬ (context.appOpen = true ∧ context.depth + 1 = 3) := by
        rintro ⟨opened, three⟩
        have deep := below opened
        omega
      simp only [respond, XmlEvent.ofCallback, ParseContext.onEvent, ParseContext.startElement,
        ParseContext.startInList, valid, idle, success, deeper, notApp, noField,
        Bool.false_eq_true, if_false, ne_eq, not_true_eq_false]
    rw [entered]
    refine ⟨⟨valid, idle, success, by dsimp only; omega, fun opened => ?_⟩, ?_⟩
    · dsimp only
      omega
    · have notEnd : ¬ context.depth + 1 = 2 := by omega
      have left
          : respond (.list capacity) { context with depth := context.depth + 1 } (.finish name)
            = { context with depth := context.depth + 1 - 1 } := by
        simp only [respond, XmlEvent.ofCallback, ParseContext.onEvent, ParseContext.endElement,
          valid, idle, notEnd, Bool.false_eq_true, if_false, ne_eq, not_true_eq_false, false_and]
      rw [left, Int.add_sub_cancel]
  refuses := by
    rintro context name attributes ⟨valid, idle, success, inside, -⟩ rfl
    have deeper : context.depth + 1 ≠ 1 := by omega
    have nested : context.depth + 1 ≠ 2 := by omega
    simp [respond, XmlEvent.ofCallback, ParseContext.onEvent, ParseContext.startElement,
      ParseContext.startInList, ParseContext.reject, appName, valid, idle, success, deeper,
      nested]

section

variable {capacity : Nat} {outer context : ParseContext} {draft : ApplicationDraft}

/-- The reader is between two children of the root of a list. -/
structure BetweenApplications (context : ParseContext) : Prop where
  valid : context.invalid = false
  idle : context.field = .none
  level : context.depth = 1
  success : context.response.statusCode = 200
  closed : context.appOpen = false

/-- The application that a list entry is stored as. -/
def ListedApplication.stored (entry : ListedApplication) : MoonlightApplication where
  id := entry.id
  name := .copy 256 (.ofBytes (CodePoint.bytesAll (CodePoint.clip 255 entry.title)))

/-- The reader is between two children of an `App` element and has read what the draft says. -/
def ApplicationDraft.Read (outer : ParseContext) (draft : ApplicationDraft)
    (context : ParseContext)
    : Prop :=
  ∃ fieldDepth text,
    context
    = { outer with
      depth := 2
      appOpen := true
      app := ListedApplication.stored { id := draft.1.getD 0, title := draft.2.getD [] }
      haveId := draft.1.isSome
      haveTitle := draft.2.isSome
      fieldDepth
      text }

/-- The reader has read what a draft of an application says, or has rejected the document if there
is none.
-/
abbrev ReadsApplication (outer : ParseContext) : Option ApplicationDraft → ParseContext → Prop :=
  Node.Follows (fun context draft => draft.Read outer context) fun context =>
    context.invalid = true

theorem ApplicationDraft.Read.valid (between : BetweenApplications outer)
    (read : draft.Read outer context)
    : context.invalid = false := by
  obtain ⟨fieldDepth, text, rfl⟩ := read
  exact between.valid

theorem ApplicationDraft.Read.success (between : BetweenApplications outer)
    (read : draft.Read outer context)
    : context.response.statusCode = 200 := by
  obtain ⟨fieldDepth, text, rfl⟩ := read
  exact between.success

theorem ApplicationDraft.Read.idle (between : BetweenApplications outer)
    (read : draft.Read outer context)
    : context.field = .none := by
  obtain ⟨fieldDepth, text, rfl⟩ := read
  exact between.idle

theorem ApplicationDraft.Read.level (read : draft.Read outer context) : context.depth = 2 := by
  obtain ⟨fieldDepth, text, rfl⟩ := read
  rfl

theorem ApplicationDraft.Read.deeper (read : draft.Read outer context)
    : context.depth + 1 = 3 := by
  rw [read.level]
  rfl

/-- The start of a child of an `App` element, as the reader takes it. -/
theorem ApplicationDraft.Read.start (between : BetweenApplications outer)
    (read : draft.Read outer context) (name : CString) (attributes : XmlAttributes)
    : respond (.list capacity) context (.start name attributes)
      = if name = appName then { context with depth := 3 }.reject
        else if name = idName then
          if draft.1.isSome then { context with depth := 3 }.reject
          else { context with depth := 3 }.beginField .id
        else if name = titleName then
          if draft.2.isSome then { context with depth := 3 }.reject
          else { context with depth := 3 }.beginField .title
        else { context with depth := 3 } := by
  obtain ⟨fieldDepth, text, rfl⟩ := read
  simp [respond, XmlEvent.ofCallback, ParseContext.onEvent, ParseContext.startElement,
    ParseContext.startInList, between.valid, between.success, between.idle, appName, idName,
    titleName]

/-- A number is read as the draft reads it. -/
theorem ApplicationDraft.Read.id (between : BetweenApplications outer)
    (read : draft.Read outer context) (attributes : XmlAttributes) (content : List XmlNode)
    : ReadsApplication outer
        (readBoth (readOnce idName (readText parseNumber)) (readOnce titleName plainText) draft
          (.element idName attributes content))
        (Node.visit (respond (.list capacity)) context (.element idName attributes content)) := by
  have start := @Read.start capacity _ _ _ between read idName attributes
  obtain ⟨found, title⟩ := draft
  rw [if_neg (by decide), if_pos rfl] at start
  rw [readBoth_first (readOnce_other (by decide) title attributes content)]
  cases found with
  | some id =>
      rw [Option.isSome_some, if_pos rfl] at start
      rw [readOnce_again]
      refine visit_rejected content ?_
      rw [start]
      rfl
  | none =>
      rw [Option.isSome_none, if_neg Bool.false_ne_true, ← read.deeper] at start
      rw [readOnce_first, Option.map_map]
      refine
        .map
          (visit_value (.list capacity) .id idName attributes content (read.valid between)
            (read.success between) (by rw [read.level]; decide) (by simp) (by simp) start
            (by simp [read.level]) fun text _ => ?_)
      obtain ⟨fieldDepth, before, rfl⟩ := read
      cases number : parseNumber (.ofBytes text) with
      | none =>
          simp only [Node.Follows, ParseContext.readField, ParseContext.beginField,
            ParseContext.endField, number, ParseContext.reject]
      | some id =>
          refine ⟨3, text, ?_⟩
          simp only [ParseContext.readField, ParseContext.beginField, ParseContext.endField, number]
          simp [ListedApplication.stored, between.idle]

/-- A title is read as the draft reads it. -/
theorem ApplicationDraft.Read.title (between : BetweenApplications outer)
    (read : draft.Read outer context) (attributes : XmlAttributes) (content : List XmlNode)
    : ReadsApplication outer
        (readBoth (readOnce idName (readText parseNumber)) (readOnce titleName plainText) draft
          (.element titleName attributes content))
        (Node.visit (respond (.list capacity)) context
          (.element titleName attributes content)) := by
  have start := @Read.start capacity _ _ _ between read titleName attributes
  obtain ⟨id, found⟩ := draft
  rw [if_neg (by decide), if_neg (by decide), if_pos rfl] at start
  rw [readBoth_second (readOnce_other (by decide) id attributes content)]
  cases found with
  | some title =>
      rw [Option.isSome_some, if_pos rfl] at start
      rw [readOnce_again]
      refine visit_rejected content ?_
      rw [start]
      rfl
  | none =>
      rw [Option.isSome_none, if_neg Bool.false_ne_true, ← read.deeper] at start
      rw [readOnce_first, Option.map_map]
      have visited :=
        visit_field (.list capacity) .title titleName attributes content (read.valid between)
          (read.success between) (by rw [read.level]; decide) (by simp) start
          (by simp [read.level])
      cases plain : plainText content with
      | none =>
          rw [plain] at visited
          exact visited
      | some title =>
          rw [plain] at visited
          simp only [true_or, if_true] at visited
          rw [visited]
          obtain ⟨fieldDepth, before, rfl⟩ := read
          refine ⟨3, (CodePoint.bytesAll title).take 255, ?_⟩
          simp only [ParseContext.readField, ParseContext.beginField, ParseContext.endField,
            finishTitle_take]
          simp [ListedApplication.stored, between.idle]

/-- Any other element is read over, but for an `App` element in it. -/
theorem ApplicationDraft.Read.other (between : BetweenApplications outer)
    (read : draft.Read outer context) {name : CString} (app : name ≠ appName) (id : name ≠ idName)
    (title : name ≠ titleName) (attributes : XmlAttributes) (content : List XmlNode)
    : ReadsApplication outer (if appName ∈ Node.namesAll content then none else some draft)
        (Node.visit (respond (.list capacity)) context (.element name attributes content)) := by
  have start := @Read.start capacity _ _ _ between read name attributes
  rw [if_neg app, if_neg id, if_neg title] at start
  have valid := read.valid between
  have idle := read.idle between
  have success := read.success between
  have below :=
    @Node.Skips.visitAll _ _ _ _ _ _ _ _ (skips_in_list capacity) content
      { context with depth := 3 }
      ⟨valid, idle, success, show (2 : Int) ≤ 3 by decide, fun _ => le_rfl⟩
  rw [Node.visit_element, start]
  by_cases nested : appName ∈ Node.namesAll content
  · rw [if_pos nested]
    exact respond_invalid _ _ (.finish name) (below.2 ⟨appName, nested, rfl⟩)
  · have left
        : respond (.list capacity) { context with depth := 3 } (.finish name)
          = { context with depth := 3 - 1 } := by
      simp [respond, XmlEvent.ofCallback, ParseContext.onEvent, ParseContext.endElement, valid,
        idle]
    rw [if_neg nested, below.1 fun other member same => nested (same ▸ member), left,
      show (3 - 1 : Int) = context.depth from read.level.symm]
    exact read

/-- A child of an `App` element is read as the draft reads it. -/
theorem ApplicationDraft.Read.child (between : BetweenApplications outer)
    (read : draft.Read outer context) (child : XmlNode)
    : ReadsApplication outer (draft.read child)
        (Node.visit (respond (.list capacity)) context child) := by
  rw [ApplicationDraft.read, readUnless]
  cases child with
  | text data =>
      rw [Node.visit_text, respond_text_idle _ (read.idle between), if_neg (by simp)]
      exact read
  | element name attributes content =>
      rw [Node.names_element]
      by_cases app : name = appName
      · rw [if_pos (by simp [app])]
        refine visit_rejected content ?_
        rw [@Read.start capacity _ _ _ between read, if_pos app]
        rfl
      · have here : appName ∈ name :: Node.namesAll content ↔ appName ∈ Node.namesAll content := by
          simp [Ne.symm app]
        simp only [here]
        by_cases id : name = idName
        · subst id
          have now := @Read.id capacity _ _ _ between read attributes content
          split
          · rename_i nested
            have unread : readText parseNumber content = none := by
              rw [readText, plainText_of_mem_names nested]
            rw [readBoth_first (readOnce_other (by decide) _ attributes content),
              readOnce_unread _ attributes unread] at now
            exact now
          · exact now
        · by_cases title : name = titleName
          · subst title
            have now := @Read.title capacity _ _ _ between read attributes content
            split
            · rename_i nested
              rw [readBoth_second (readOnce_other (by decide) _ attributes content),
                readOnce_unread _ attributes (plainText_of_mem_names nested)] at now
              exact now
            · exact now
          · have passes
                : readBoth (readOnce idName (readText parseNumber)) (readOnce titleName plainText)
                    draft (.element name attributes content)
                  = some draft := by
              rw [readBoth_first (readOnce_other title _ attributes content), readOnce_other id]
              rfl
            rw [passes]
            exact read.other between app id title attributes content

end

-----------------------------------------------------------------------------------------
-- The reader below the root
-----------------------------------------------------------------------------------------

section

variable {capacity : Nat} {context : ParseContext} {entries : List ListedApplication}

/-- The reader is between two children of the root and has read some entries. -/
structure ListRead (capacity : Nat) (entries : List ListedApplication) (context : ParseContext)
    : Prop extends BetweenApplications context where
  root : context.rootSeen = true
  apps : context.apps = (entries.take capacity).map ListedApplication.stored
  total : context.response.totalApplications = entries.length

/-- The reader has read some entries, or has rejected the document if there are none. -/
abbrev ReadsList (capacity : Nat) : Option (List ListedApplication) → ParseContext → Prop :=
  Node.Follows (fun context entries => ListRead capacity entries context) fun context =>
    context.invalid = true

/-- The start of a child of the root, as the reader takes it. -/
theorem BetweenApplications.start (between : BetweenApplications context) (name : CString)
    (attributes : XmlAttributes)
    : respond (.list capacity) context (.start name attributes)
      = if name = appName then
          { context with depth := 2, app := {}, haveId := false, haveTitle := false, appOpen := true }
        else { context with depth := 2 } := by
  simp [respond, XmlEvent.ofCallback, ParseContext.onEvent, ParseContext.startElement,
    ParseContext.startInList, between.valid, between.success, between.idle, between.level,
    between.closed, appName]

/-- The end of an `App` element. -/
theorem ApplicationDraft.Read.finish (between : BetweenApplications context)
    {draft : ApplicationDraft} {inside : ParseContext} (read : draft.Read context inside)
    : match draft with
      | (some id, some title) =>
          if context.response.totalApplications = intMax then
            (respond (.list capacity) inside (.finish appName)).invalid = true
          else
            ∃ app haveId haveTitle fieldDepth text,
              respond (.list capacity) inside (.finish appName)
              = { context with
                apps :=
                  if context.apps.length < capacity then
                    context.apps ++ [ListedApplication.stored { id, title }]
                  else context.apps
                response :=
                  { context.response with
                    totalApplications := context.response.totalApplications + 1 }
                app, haveId, haveTitle, fieldDepth, text }
      | _ => (respond (.list capacity) inside (.finish appName)).invalid = true := by
  obtain ⟨fieldDepth, text, rfl⟩ := read
  obtain ⟨valid, idle, level, success, closed⟩ := between
  obtain ⟨_ | id, _ | title⟩ := draft
  case some.some =>
    dsimp only
    split
    · rename_i full
      simp [respond, XmlEvent.ofCallback, ParseContext.onEvent, ParseContext.endElement,
        ParseContext.reject, valid, idle, success, full, appName]
    · rename_i room
      refine ⟨ListedApplication.stored { id, title }, true, true, fieldDepth, text, ?_⟩
      simp [respond, XmlEvent.ofCallback, ParseContext.onEvent, ParseContext.endElement,
        ParseContext.endApp, valid, idle, success, room, appName, level, closed]
  all_goals
    simp [respond, XmlEvent.ofCallback, ParseContext.onEvent, ParseContext.endElement,
      ParseContext.reject, valid, idle, success, appName]

/-- An `App` element is read as the list of entries reads it. -/
theorem ListRead.app (read : ListRead capacity entries context) (attributes : XmlAttributes)
    (content : List XmlNode)
    : ReadsList capacity (readListed entries (.element appName attributes content))
        (Node.visit (respond (.list capacity)) context (.element appName attributes content)) := by
  have between := read.toBetweenApplications
  have start := @BetweenApplications.start capacity _ between appName attributes
  rw [if_pos rfl] at start
  have opened
      : ApplicationDraft.Read context (none, none)
          (respond (.list capacity) context (.start appName attributes)) :=
    ⟨context.fieldDepth, context.text, start⟩
  have children :=
    Node.visitAll_foldlM (respond_invalid (.list capacity))
      (fun _ _ child read => ApplicationDraft.Read.child between read child) content opened
  rw [Node.visit_element, readListed, if_pos rfl]
  cases drafted : content.foldlM ApplicationDraft.read (none, none) with
  | none =>
      rw [drafted] at children
      exact respond_invalid (.list capacity) _ (.finish appName) children
  | some draft =>
      rw [drafted] at children
      have ended := @ApplicationDraft.Read.finish capacity _ between _ _ children
      obtain ⟨_ | id, _ | title⟩ := draft
      · exact ended
      · exact ended
      · exact ended
      · dsimp only at ended ⊢
        rw [read.total] at ended
        split
        · rename_i full
          rw [if_pos full] at ended
          exact ended
        · rename_i room
          rw [if_neg room] at ended
          obtain ⟨app, haveId, haveTitle, fieldDepth, text, ended⟩ := ended
          rw [ended]
          refine { read with apps := ?_, total := ?_ }
          · dsimp only
            rw [read.apps]
            split
            · rename_i more
              rw [List.length_map, List.length_take] at more
              rw [List.take_of_length_le (by omega), List.take_of_length_le, List.map_append]
              · rfl
              · rw [List.length_append, List.length_singleton]
                omega
            · rename_i full
              rw [List.length_map, List.length_take] at full
              rw [List.take_append_of_le_length (by omega)]
          · simp

/-- Any other element is read over, but for an `App` element in it. -/
theorem ListRead.other (read : ListRead capacity entries context) {name : CString}
    (app : name ≠ appName) (attributes : XmlAttributes) (content : List XmlNode)
    : ReadsList capacity (readListed entries (.element name attributes content))
        (Node.visit (respond (.list capacity)) context (.element name attributes content)) := by
  have start := @BetweenApplications.start capacity _ read.toBetweenApplications name attributes
  rw [if_neg app] at start
  have below :=
    @Node.Skips.visitAll _ _ _ _ _ _ _ _ (skips_in_list capacity) content
      { context with depth := 2 }
      ⟨read.valid, read.idle, read.success, le_rfl, by simp [read.closed]⟩
  rw [Node.visit_element, start, readListed, if_neg app]
  by_cases nested : appName ∈ Node.namesAll content
  · rw [if_pos nested]
    exact respond_invalid _ _ (.finish name) (below.2 ⟨appName, nested, rfl⟩)
  · have left
        : respond (.list capacity) { context with depth := 2 } (.finish name)
          = { context with depth := 2 - 1 } := by
      have notApp : name ≠ .ofLiteral "App" := app
      simp [respond, XmlEvent.ofCallback, ParseContext.onEvent, ParseContext.endElement,
        read.valid, read.idle, notApp]
    rw [if_neg nested, below.1 fun other member same => nested (same ▸ member), left,
      show (2 - 1 : Int) = context.depth from read.level.symm]
    exact read

/-- A child of the root is read as the list of entries reads it. -/
theorem ListRead.child (read : ListRead capacity entries context) (child : XmlNode)
    : ReadsList capacity (readListed entries child)
        (Node.visit (respond (.list capacity)) context child) := by
  cases child with
  | text data =>
      rw [Node.visit_text, respond_text_idle _ read.idle]
      exact read
  | element name attributes content =>
      by_cases app : name = appName
      · subst app
        exact read.app attributes content
      · exact read.other app attributes content

/-- What the reader makes of a root that reports success. -/
theorem parseResponse_list {root : XmlRoot} (name : root.name = .ofLiteral "root")
    (success : root.HasStatus 200)
    : match root.children.foldlM readListed [] with
      | none =>
          (parseResponse (.list capacity) (ResponseText.wellFormed false root).document none).2
          = .error .invalid
      | some entries =>
          ∃ context,
            parseResponse (.list capacity) (ResponseText.wellFormed false root).document none
            = (context, .ok ())
            ∧ context.apps = (entries.take capacity).map ListedApplication.stored
            ∧ context.response.totalApplications = entries.length := by
  obtain ⟨message, opened⟩ := respond_root (.list capacity) name success (by decide)
  have start : ListRead capacity [] (rootOpened 200 message) :=
    { valid := rfl, idle := rfl, level := rfl, success := rfl, closed := rfl, root := rfl
      apps := by simp [rootOpened], total := rfl }
  have children :=
    Node.visitAll_foldlM (respond_invalid (.list capacity))
      (fun _ _ child read => ListRead.child read child) root.children start
  rw [parseResponse_tree, XmlRoot.node, Node.visit_element, opened]
  cases read : root.children.foldlM readListed [] with
  | none =>
      rw [read] at children
      exact
        ParseContext.conclude_invalid (.list capacity)
          (respond_invalid (.list capacity) _ (.finish root.name) children)
  | some entries =>
      rw [read] at children
      rw [respond_root_end _ _ children.valid children.idle children.level]
      refine ⟨_, Prod.ext rfl ?_, children.apps, children.total⟩
      simp [ParseContext.conclude, children.valid, children.root, children.success]

end

-----------------------------------------------------------------------------------------
-- Application lists
-----------------------------------------------------------------------------------------

/-- How many elements the text has. `parse_response` takes at most `INT_MAX` bytes. -/
def ResponseText.elements : ResponseText → Nat
  | .wellFormed _ root => root.elements
  | .malformed _ => 0

theorem length_namedContents_le (name : CString) (children : List XmlNode)
    : (namedContents name children).length ≤ (Node.namesAll children).length := by
  induction children with
  | nil => exact le_rfl
  | cons child rest ih =>
      rw [Node.namesAll, List.length_append]
      cases child with
      | text data => exact le_trans ih (Nat.le_add_left _ _)
      | element other attributes content =>
          rw [Node.names_element, List.length_cons]
          have more
              : (namedContents name (.element other attributes content :: rest)).length
                ≤ (namedContents name rest).length + 1 := by
            by_cases named : other = name <;> simp [namedContents, contentOf, named]
          omega

/-- The children of the root are read exactly when the root is an application list. -/
theorem read_list_iff {root : XmlRoot} (name : root.name = .ofLiteral "root")
    (success : root.HasStatus 200) (small : root.elements ≤ intMax)
    (entries : List ListedApplication)
    : root.children.foldlM readListed [] = some entries ↔ ApplicationList root entries := by
  rw [foldlM_readListed_iff _ _ _ (Nat.zero_le _)]
  simp only [List.nil_append]
  constructor
  · rintro ⟨direct, _, listed, rfl, -⟩
    exact ⟨name, success, direct, listed⟩
  · rintro ⟨-, -, direct, listed⟩
    refine ⟨direct, entries, listed, rfl, ?_⟩
    have all := length_namedContents_le appName root.children
    rw [XmlRoot.elements, XmlRoot.node, Node.names_element, List.length_cons] at small
    rw [← listed.length_eq]
    omega

/-- An entry is stored with its number and the whole code points of its title that fit. -/
theorem ListedApplication.stored_eq (entry : ListedApplication)
    : (entry.stored.id, entry.stored.name.text.bytes)
      = ((entry.id : Int), CodePoint.bytesAll (CodePoint.clip 255 entry.title)) := by
  have whole := CString.bytes_ofBytes (CodePoint.noNul (CodePoint.clip 255 entry.title))
  have fits
      : (CString.ofBytes (CodePoint.bytesAll (CodePoint.clip 255 entry.title))).length < 256 := by
    rw [CString.length, whole]
    exact Nat.lt_succ_of_le (CodePoint.length_clip_le 255 entry.title)
  refine Prod.ext rfl ?_
  change (CharArray.copy 256 _).text.bytes = _
  rw [CharArray.text_copy_of_length_lt fits, whole]

/-- An application list is accepted exactly when all its `App` elements are children of the root
that list an application. Then as many entries as fit are stored, in order, with their numbers and
what fits of their titles, and all are counted. Otherwise the count is zero, and a root that states
another status is a server error with this status.
-/
theorem list_accepted_iff_lists (text : ResponseText) (capacity : Nat)
    (small : text.elements ≤ intMax)
    : let output := parseApplications text.document none capacity
      (output.result = .ok () ↔ ∃ entries, AnswersApplications text entries)
      ∧ (∀ entries,
          AnswersApplications text entries
          → output.count = min capacity entries.length
            ∧ output.apps.map (fun app => (app.id, app.name.text.bytes))
              = (entries.take capacity).map (fun entry =>
                  ((entry.id : Int), CodePoint.bytesAll (CodePoint.clip 255 entry.title)))
            ∧ output.response.totalApplications = entries.length)
      ∧ (output.result ≠ .ok () → output.count = 0)
      ∧ ∀ root status,
          text = .wellFormed false root
          → root.name = .ofLiteral "root"
          → root.HasStatus status
          → status ≠ 0
          → status ≠ 200
          → output.result = .error .serverError ∧ output.response.statusCode = status := by
  dsimp only [parseApplications]
  have accepts
      : ∀ entries,
          AnswersApplications text entries
          → ∃ context,
              parseResponse (.list capacity) text.document none = (context, .ok ())
              ∧ context.apps = (entries.take capacity).map ListedApplication.stored
              ∧ context.response.totalApplications = entries.length := by
    rintro entries ⟨root, rfl, list⟩
    have read := @parseResponse_list capacity _ list.name list.status
    rw [(read_list_iff list.name list.status small entries).2 list] at read
    exact read
  refine ⟨⟨fun accepted => ?_, fun ⟨entries, list⟩ => ?_⟩, fun entries list => ?_, ?_, ?_⟩
  · obtain ⟨root, rfl, name, success⟩ := parseResponse_accepted _ accepted
    have read := @parseResponse_list capacity _ name success
    cases drafted : root.children.foldlM readListed [] with
    | none =>
        rw [drafted] at read
        rw [read] at accepted
        contradiction
    | some entries => exact ⟨entries, root, rfl, (read_list_iff name success small entries).1 drafted⟩
  · obtain ⟨context, result, -⟩ := accepts entries list
    rw [result]
  · obtain ⟨context, result, apps, total⟩ := accepts entries list
    rw [result]
    refine ⟨by simp [apps], ?_, total⟩
    simp only [apps, List.map_map, Function.comp_def, ListedApplication.stored_eq]
  · intro failed
    cases result : (parseResponse (.list capacity) text.document none).2 with
    | ok => exact absurd result failed
    | error => rfl
  · rintro root status rfl name numeric nonzero other
    obtain ⟨message, result⟩ :=
      parseResponse_serverError (.list capacity) name numeric nonzero other
    rw [result]
    exact ⟨rfl, rfl⟩

/-- The letter a. -/
def letterA : CodePoint := .single 97 (by decide) (by decide) (by decide)

/-- A list of application 1 with a title. -/
def titled (title : List CodePoint) : XmlRoot where
  name := .ofLiteral "root"
  attributes := okAttributes
  children :=
    [.element appName noAttributes
      [.element idName noAttributes [.text [.one]],
        .element titleName noAttributes [.text title]]]

/-- The list is one, with this title. -/
theorem titled_lists (title : List CodePoint)
    : AnswersApplications (.wellFormed false (titled title)) [{ id := 1, title }] := by
  refine ⟨titled title, rfl, rfl, ⟨.ofLiteral "200", rfl, ?_⟩, ?_, .cons ⟨?_, ?_⟩ .nil⟩
  · exact
      ⟨[], [50, 48, 48], [], rfl, by simp, by simp, by simp [CText.isDigit], by simp, rfl,
        by decide⟩
  · intro child member
    rw [List.mem_singleton.1 member]
    have others : appName ≠ idName ∧ appName ≠ titleName := by decide
    simp [namesBelow, Node.namesAll, others]
  · exact
      ⟨_, rfl, _, rfl, ⟨[], [49], [], rfl, by simp, by simp, by simp [CText.isDigit],
        by simp, rfl, (by decide : 1 ≤ intMax)⟩, by decide⟩
  · refine ⟨_, rfl, ?_⟩
    rw [plainText, plainText, Option.map_some, List.append_nil]

/-- A list of application 1, whose title is 256 letters long. -/
def longTitled : XmlRoot where
  name := .ofLiteral "root"
  attributes := okAttributes
  children :=
    [.element appName noAttributes
      [.element idName noAttributes [.text [.one]],
        .element titleName noAttributes [.text (List.replicate 256 letterA)]]]

/-- The list is one, with the whole title. -/
theorem longTitled_lists
    : AnswersApplications (.wellFormed false longTitled)
        [{ id := 1, title := List.replicate 256 letterA }] :=
  titled_lists _

/-- Of a title that is too long, 255 bytes are stored. -/
theorem long_title_clipped
    : let output :=
        parseApplications (ResponseText.wellFormed false longTitled).document none 1
      output.count = 1
      ∧ output.apps.map (fun app => (app.id, app.name.text.bytes))
        = [((1 : Int), CodePoint.bytesAll (CodePoint.clip 255 (List.replicate 256 letterA)))] := by
  obtain ⟨-, stored, -⟩ :=
    list_accepted_iff_lists (.wellFormed false longTitled) 1 (by decide)
  obtain ⟨count, apps, -⟩ := stored _ longTitled_lists
  exact ⟨count, apps⟩

set_option maxRecDepth 4000 in
/-- An accepted entry does not hold the whole title of its application. -/
theorem long_title_not_stored
    : AnswersApplications (.wellFormed false longTitled)
        [{ id := 1, title := List.replicate 256 letterA }]
      ∧ (parseApplications (ResponseText.wellFormed false longTitled).document none 1).apps.map
          (fun app => app.name.text.bytes.length)
        = [255]
      ∧ (CodePoint.bytesAll (List.replicate 256 letterA)).length = 256 :=
  ⟨longTitled_lists, rfl, rfl⟩

end VitaMoonlight
