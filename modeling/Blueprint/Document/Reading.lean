/-
Module: Blueprint.Document.Reading
Purpose: Reading a model document from its events. Each kind of element has a reader that takes up
  behind the start tag and stops behind the matching end tag; elements that a reader does not know
  are passed over with all they hold. The document ending inside an element is a fault where
  elements or texts are collected; inside a member it ends the member, and its owner reports it.
Main exports: skipElement, collectText, readText, readBody, readOperation, readEnds, readChildren,
  readDraft, readDocument, Model.ofDocument
-/
import Blueprint.Document.Cursor
import Blueprint.Document.Draft
import Blueprint.Markup.Scan
import Blueprint.Text.Dedent

namespace Blueprint.Document

open Blueprint.Markup (Event Tag)

/-! ### Passing over and collecting -/

/-- Pass over the rest of an element, given the number of elements open inside it. -/
def skipElement (depth : Nat) (cursor : Cursor) : Except DocumentFault cursor.Later :=
  match cursor.next? with
  | none => cursor.stop (.ok cursor.here)
  | some (event, ⟨later, _⟩) =>
    match event with
    | .start _ => do
      let ⟨after, _⟩ ← skipElement (depth + 1) later
      return ⟨after, by omega⟩
    | .finish _ =>
      match depth with
      | 0 => .ok ⟨later, by omega⟩
      | depth + 1 => do
        let ⟨after, _⟩ ← skipElement depth later
        return ⟨after, by omega⟩
    | _ => do
      let ⟨after, _⟩ ← skipElement depth later
      return ⟨after, by omega⟩
termination_by cursor.events.length

/-- The text with its references replaced. -/
def unescapeRun (run : String) : Except DocumentFault String :=
  (Markup.unescape run).mapError .escape

/-- The text of the rest of an element, given the number of elements open inside it, the text that is
    `done` and the `run` that is still to be unescaped. A run goes on over markup and references, and
    ends at a section of character data or with the element. -/
def collectText (depth : Nat) (done run : String) (cursor : Cursor) :
    Except DocumentFault String × cursor.Later :=
  match cursor.next? with
  | none => (cursor.stop (.error .unexpectedEnd), cursor.here)
  | some (event, ⟨later, _⟩) =>
    match event with
    | .text content =>
      let (outcome, ⟨after, _⟩) := collectText depth done (run ++ content) later
      (outcome, ⟨after, by omega⟩)
    | .reference name =>
      let (outcome, ⟨after, _⟩) := collectText depth done (run ++ "&" ++ name ++ ";") later
      (outcome, ⟨after, by omega⟩)
    | .cdata content =>
      match unescapeRun run with
      | .error fault => (.error fault, ⟨later, by omega⟩)
      | .ok text =>
        let (outcome, ⟨after, _⟩) := collectText depth (done ++ text ++ content) "" later
        (outcome, ⟨after, by omega⟩)
    | .start _ =>
      let (outcome, ⟨after, _⟩) := collectText (depth + 1) done run later
      (outcome, ⟨after, by omega⟩)
    | .finish _ =>
      match depth with
      | 0 => ((unescapeRun run).map (done ++ ·), ⟨later, by omega⟩)
      | depth + 1 =>
        let (outcome, ⟨after, _⟩) := collectText depth done run later
        (outcome, ⟨after, by omega⟩)
    | _ =>
      let (outcome, ⟨after, _⟩) := collectText depth done run later
      (outcome, ⟨after, by omega⟩)
termination_by cursor.events.length

/-- The text of the rest of an element, dedented. Texts are taken as they stand until the element ends,
    and are trimmed again behind it, whether or not the text could be read. -/
def readText (cursor : Cursor) : Except DocumentFault String × cursor.Later :=
  match collectText 0 "" "" (cursor.setTrimming false) with
  | (outcome, ⟨after, shorter⟩) =>
    (outcome.map Text.dedent, ⟨after.setTrimming true, shorter⟩)

/-! ### Members -/

/-- The documentation in the rest of a member, given what has been found before. The last
    documentation prevails. -/
def readBody (documentation : String) (cursor : Cursor) :
    Except DocumentFault (String × cursor.Later) :=
  match cursor.next? with
  | none => cursor.stop (.ok (documentation, cursor.here))
  | some (event, ⟨later, _⟩) =>
    match event with
    | .start tag =>
      if tag.name == "documentation" then
        match readText later with
        | (.error fault, _) => .error fault
        | (.ok text, ⟨after, _⟩) => do
          let (documentation, ⟨final, _⟩) ← readBody text after
          return (documentation, ⟨final, by omega⟩)
      else do
        let ⟨after, _⟩ ← skipElement 0 later
        let (documentation, ⟨final, _⟩) ← readBody documentation after
        return (documentation, ⟨final, by omega⟩)
    | .finish _ => .ok (documentation, ⟨later, by omega⟩)
    | _ => do
      let (documentation, ⟨final, _⟩) ← readBody documentation later
      return (documentation, ⟨final, by omega⟩)
termination_by cursor.events.length

/-- The documentation of a member; an empty element has none. -/
def readMemberBody (isEmpty : Bool) (cursor : Cursor) :
    Except DocumentFault (String × cursor.Later) :=
  if isEmpty then .ok ("", cursor.here) else readBody "" cursor

/-- An attribute with its documentation. -/
def readAttribute (tag : Tag) (isEmpty : Bool) (cursor : Cursor) :
    Except DocumentFault (AttributeTag × cursor.Later) := do
  let record ← AttributeTag.read tag
  let (documentation, after) ← readMemberBody isEmpty cursor
  return ({ record with member := { record.member with documentation } }, after)

/-- A parameter with its documentation. -/
def readParameter (tag : Tag) (isEmpty : Bool) (cursor : Cursor) :
    Except DocumentFault (ParameterTag × cursor.Later) := do
  let record ← ParameterTag.read tag
  let (documentation, after) ← readMemberBody isEmpty cursor
  return ({ record with parameter := { record.parameter with documentation } }, after)

/-- A literal with its documentation. -/
def readLiteral (tag : Tag) (isEmpty : Bool) (cursor : Cursor) :
    Except DocumentFault (Literal × cursor.Later) := do
  let literal ← readLiteralTag tag
  let (documentation, after) ← readMemberBody isEmpty cursor
  return ({ literal with documentation }, after)

/-- An association end with its documentation. The element at the end must be given. -/
def readEnd (tag : Tag) (isEmpty : Bool) (cursor : Cursor) :
    Except DocumentFault (AssociationEnd String × cursor.Later) := do
  let record ← EndTag.read tag
  let (documentation, after) ← readMemberBody isEmpty cursor
  let some key := record.key? | .error (.missingAttribute "end" "reference")
  return ({ record.details with documentation }.withElement key, after)

/-- The tag of an event that opens an element, and whether the element is empty. -/
def opening? : Event → Option (Tag × Bool)
  | .start tag => some (tag, false)
  | .empty tag => some (tag, true)
  | _ => none

/-- Pass over an element whose tag has been read. -/
def skipOpened (isEmpty : Bool) (cursor : Cursor) : Except DocumentFault cursor.Later :=
  if isEmpty then .ok cursor.here else skipElement 0 cursor

/-- An operation as far as it has been read: the types of its parameters that are given by keys are
    listed by the place of the parameter. -/
structure OperationDraft where
  operation : Operation
  keys : List (Nat × String) := []

/-- The operation with one more parameter. -/
def OperationDraft.addParameter (draft : OperationDraft) (record : ParameterTag) : OperationDraft where
  operation :=
    { draft.operation with parameters := draft.operation.parameters ++ [record.parameter] }
  keys :=
    draft.keys ++ record.typeKey?.toList.map fun key => (draft.operation.parameters.length, key)

/-- One element inside an operation, whose tag has been read. -/
def readOperationChild (draft : OperationDraft) (tag : Tag) (isEmpty : Bool) (cursor : Cursor) :
    Except DocumentFault (OperationDraft × cursor.Later) := do
  if tag.name == "parameter" then
    let (record, after) ← readParameter tag isEmpty cursor
    return (draft.addParameter record, after)
  else if tag.name == "documentation" && !isEmpty then
    let (outcome, after) := readText cursor
    return ({ draft with operation := { draft.operation with documentation := ← outcome } }, after)
  else if tag.name == "specification" && !isEmpty then
    let (outcome, after) := readText cursor
    return ({ draft with operation := { draft.operation with body := ← outcome } }, after)
  else
    return (draft, ← skipOpened isEmpty cursor)

/-- The rest of an operation. -/
def readOperation (draft : OperationDraft) (cursor : Cursor) :
    Except DocumentFault (OperationDraft × cursor.Later) :=
  match cursor.next? with
  | none => cursor.stop (.ok (draft, cursor.here))
  | some (event, ⟨later, _⟩) =>
    match opening? event with
    | some (tag, isEmpty) => do
      let (draft, ⟨after, _⟩) ← readOperationChild draft tag isEmpty later
      let (draft, ⟨final, _⟩) ← readOperation draft after
      return (draft, ⟨final, by omega⟩)
    | none =>
      match event with
      | .finish _ => .ok (draft, ⟨later, by omega⟩)
      | _ => do
        let (draft, ⟨final, _⟩) ← readOperation draft later
        return (draft, ⟨final, by omega⟩)
termination_by cursor.events.length

/-- The rest of an association: its ends, after those found before. -/
def readEnds (ends : List (AssociationEnd String)) (cursor : Cursor) :
    Except DocumentFault (List (AssociationEnd String) × cursor.Later) :=
  match cursor.next? with
  | none => cursor.stop (.ok (ends, cursor.here))
  | some (event, ⟨later, _⟩) =>
    match opening? event with
    | some (tag, isEmpty) =>
      if tag.name == "end" then do
        let (found, ⟨after, _⟩) ← readEnd tag isEmpty later
        let (ends, ⟨final, _⟩) ← readEnds (ends ++ [found]) after
        return (ends, ⟨final, by omega⟩)
      else do
        let ⟨after, _⟩ ← skipOpened isEmpty later
        let (ends, ⟨final, _⟩) ← readEnds ends after
        return (ends, ⟨final, by omega⟩)
    | none =>
      match event with
      | .finish _ => .ok (ends, ⟨later, by omega⟩)
      | _ => do
        let (ends, ⟨final, _⟩) ← readEnds ends later
        return (ends, ⟨final, by omega⟩)
termination_by cursor.events.length

/-! ### Elements -/

mutual

/-- One element inside `parent`, whose tag has been read. -/
def readChild (draft : Draft) (parent : ElementId) (tag : Tag) (isEmpty : Bool) (cursor : Cursor) :
    Except DocumentFault (Draft × cursor.Later) :=
  match TagKind.ofName tag.name with
  | .package => do
    let id := draft.model.nextId
    let draft ← draft.addPackage parent tag
    if isEmpty then return (draft, cursor.here) else readChildren draft id cursor
  | .classifier => do
    let id := draft.model.nextId
    let draft ← draft.addClassifier parent tag
    if isEmpty then return (draft, cursor.here) else readChildren draft id cursor
  | .attr => do
    let (record, after) ← readAttribute tag isEmpty cursor
    return (← draft.addAttribute parent record, after)
  | .operation => do
    let operation ← readOperationTag tag
    if isEmpty then return (← draft.addOperation parent operation [], cursor.here)
    else
      let (read, after) ← readOperation { operation } cursor
      return (← draft.addOperation parent read.operation read.keys, after)
  | .literal => do
    let (literal, after) ← readLiteral tag isEmpty cursor
    return (← draft.addLiteral parent literal, after)
  | .useCase => do
    let draft ← draft.addUseCase parent tag
    return (draft, ← skipOpened isEmpty cursor)
  | .directed => do
    let draft ← draft.addDirected tag
    return (draft, ← skipOpened isEmpty cursor)
  | .association => do
    if isEmpty then return (draft.link (.association []), cursor.here)
    else
      let (ends, after) ← readEnds [] cursor
      return (draft.link (.association ends), after)
  | .documentation =>
    if isEmpty then .ok (draft, cursor.here)
    else
      match readText cursor with
      | (.error fault, _) => .error fault
      | (.ok text, after) => .ok (draft.document parent text, after)
  | .unknown => do return (draft, ← skipOpened isEmpty cursor)
termination_by 2 * cursor.events.length + 1

/-- The rest of an element that holds others. -/
def readChildren (draft : Draft) (parent : ElementId) (cursor : Cursor) :
    Except DocumentFault (Draft × cursor.Later) :=
  match cursor.next? with
  | none => cursor.stop (.error .unexpectedEnd)
  | some (event, ⟨later, _⟩) =>
    match opening? event with
    | some (tag, isEmpty) => do
      let (draft, ⟨after, _⟩) ← readChild draft parent tag isEmpty later
      let (draft, ⟨final, _⟩) ← readChildren draft parent after
      return (draft, ⟨final, by omega⟩)
    | none =>
      match event with
      | .finish _ => .ok (draft, ⟨later, by omega⟩)
      | _ => do
        let (draft, ⟨final, _⟩) ← readChildren draft parent later
        return (draft, ⟨final, by omega⟩)
termination_by 2 * cursor.events.length

end

/-! ### Documents -/

/-- The draft of the model that begins with the first element of that name. What comes after it is not
    read. -/
def readDraft (cursor : Cursor) : Except DocumentFault Draft :=
  match cursor.next? with
  | none => cursor.stop (.error .noModel)
  | some (event, ⟨later, _⟩) =>
    match opening? event with
    | some (tag, isEmpty) =>
      if tag.name == "model" then do
        let draft ← Draft.ofTag tag
        if isEmpty then return draft
        else
          let (draft, _) ← readChildren draft Model.root later
          return draft
      else readDraft later
    | none => readDraft later
termination_by cursor.events.length

/-- The model of a document: the draft is read to its end before any reference is resolved. -/
def readDocument (cursor : Cursor) : Except DocumentFault Model := do
  (← readDraft cursor).resolve

end Blueprint.Document

/-- The model that a document describes. -/
def Blueprint.Model.ofDocument (document : String) :
    Except Blueprint.DocumentFault Blueprint.Model :=
  Blueprint.Document.readDocument
    (Blueprint.Document.Cursor.ofStream (Blueprint.Markup.Stream.ofText document))
