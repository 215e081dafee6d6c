/-
Module: Blueprint.Proofs.Document.Outline
Purpose: What a document declares, read off its tree by plain recursion. An outline keeps the
  declarations of a container in document order, each element with the outline of what it holds. It
  knows no identities and no places: members carry the keys of their types, relationships the keys
  of their ends. The model of an outline numbers its elements in document order and puts, in one
  pass, the element that a key names where the key stands.
Main exports: Forest.text, Forest.documentation, Forest.operation, Forest.ends, Outline,
  Forest.outline, Outline.elements, Outline.model
-/
import Blueprint.Proofs.Document.Forest

namespace Blueprint.Document

open Blueprint.Markup (Event Tag)

/-! ### Texts -/

/-- The text of leaves in order, given the run of text before them that is still to be unescaped. A run
    ends at a section of character data, which is taken as it stands. -/
def textOf (run : String) : List Leaf → Except DocumentFault String
  | [] => unescapeRun run
  | .text content :: pieces => textOf (run ++ content) pieces
  | .reference name :: pieces => textOf (run ++ "&" ++ name ++ ";") pieces
  | .cdata content :: pieces => do
    let text ← unescapeRun run
    let following ← textOf "" pieces
    return text ++ content ++ following
  | _ :: pieces => textOf run pieces

namespace Forest

/-- The text that a forest holds at any depth, dedented. -/
def text (forest : Forest) : Except DocumentFault String :=
  (textOf "" forest.leaves).map Text.dedent

/-! ### Members -/

/-- The text of the last documentation in a forest, or what has been `found` before. -/
def documentation (found : String) : Forest → Except DocumentFault String
  | nil => .ok found
  | element tag inside _ rest =>
    if tag.name == "documentation" then do rest.documentation (← inside.text)
    else rest.documentation found
  | empty _ rest | leaf _ rest => rest.documentation found

end Forest

/-- The attribute of an element with the given tag and content. -/
def attributeOf (tag : Tag) (inside : Forest) : Except DocumentFault AttributeTag := do
  let record ← AttributeTag.read tag
  let documentation ← inside.documentation ""
  return { record with member := { record.member with documentation } }

/-- The parameter of an element with the given tag and content. -/
def parameterOf (tag : Tag) (inside : Forest) : Except DocumentFault ParameterTag := do
  let record ← ParameterTag.read tag
  let documentation ← inside.documentation ""
  return { record with parameter := { record.parameter with documentation } }

/-- The literal of an element with the given tag and content. -/
def literalOf (tag : Tag) (inside : Forest) : Except DocumentFault Literal := do
  let literal ← readLiteralTag tag
  let documentation ← inside.documentation ""
  return { literal with documentation }

/-- The association end of an element with the given tag and content. -/
def endOf (tag : Tag) (inside : Forest) : Except DocumentFault (AssociationEnd String) := do
  let record ← EndTag.read tag
  let documentation ← inside.documentation ""
  let some key := record.key? | .error (.missingAttribute "end" "reference")
  return { record.details with documentation }.withElement key

/-- An operation and its parameters, whose types may be given by keys. -/
structure OperationRecord where
  operation : Operation
  parameters : List ParameterTag := []

/-- An operation with what one element inside it says: a further parameter, or the documentation or the
    specification that prevails over any before it. -/
def operationWith (record : OperationRecord) (tag : Tag) (isEmpty : Bool) (inside : Forest) :
    Except DocumentFault OperationRecord := do
  if tag.name == "parameter" then
    let parameter ← parameterOf tag inside
    return { record with parameters := record.parameters ++ [parameter] }
  else if tag.name == "documentation" && !isEmpty then
    let documentation ← inside.text
    return { record with operation := { record.operation with documentation } }
  else if tag.name == "specification" && !isEmpty then
    let body ← inside.text
    return { record with operation := { record.operation with body } }
  else return record

namespace Forest

/-- An operation with what a forest says about it. -/
def operation (record : OperationRecord) : Forest → Except DocumentFault OperationRecord
  | nil => .ok record
  | element tag inside _ rest => do rest.operation (← operationWith record tag false inside)
  | empty tag rest => do rest.operation (← operationWith record tag true nil)
  | leaf _ rest => rest.operation record

/-- The ends of an association in order. -/
def ends : Forest → Except DocumentFault (List (AssociationEnd String))
  | nil => .ok []
  | element tag inside _ rest =>
    if tag.name == "end" then do
      let found ← endOf tag inside
      let following ← rest.ends
      return found :: following
    else rest.ends
  | empty tag rest =>
    if tag.name == "end" then do
      let found ← endOf tag nil
      let following ← rest.ends
      return found :: following
    else rest.ends
  | leaf _ rest => rest.ends

end Forest

/-! ### Outlines -/

/-- What an element is, apart from its members and the elements that it owns. -/
inductive EntryKind where
  | package
  | classifier (kind : ClassifierKind) (data : Classifier)
  | useCase (stereotypeKey? : Option String)

/-- An element as its tag declares it. -/
structure Entry where
  name : String
  key? : Option String
  kind : EntryKind

/-- The declarations inside a container, in document order. -/
inductive Outline where
  | nil
  | element (entry : Entry) (inside rest : Outline)
  | attr (record : AttributeTag) (rest : Outline)
  | operation (record : OperationRecord) (rest : Outline)
  | literal (literal : Literal) (rest : Outline)
  | documentation (text : String) (rest : Outline)
  | link (link : Link) (rest : Outline)

/-- The keys that an outline declares, in document order. -/
def Outline.keys : Outline → List String
  | nil => []
  | element entry inside rest => entry.key?.toList ++ inside.keys ++ rest.keys
  | attr _ rest | operation _ rest | literal _ rest | documentation _ rest | link _ rest =>
    rest.keys

/-- The keys taken after an element has been given one. A key names one element only. -/
def takeKey (key? : Option String) (taken : List String) : Except DocumentFault (List String) :=
  match key? with
  | none => .ok taken
  | some key => if key ∈ taken then .error (.duplicateKey key) else .ok (taken ++ [key])

/-- The relationship that the tag of a directed one declares. -/
def linkOf (tag : Tag) : Except DocumentFault Link := do
  let record ← DirectedTag.read tag
  let some source := record.source? | .error (.missingAttribute tag.name "source")
  let some target := record.target? | .error (.missingAttribute tag.name "target")
  match tag.name with
  | "generalization" => return .generalization source target
  | "realization" => return .realization source target
  | _ => return .dependency source target record.mapping?

/-- The outline that begins with an element: `within` is the outline of what the element holds and
    `following` that of what comes after it, given the keys that are taken by then. Members stand
    in classifiers only. Use cases and directed relationships hold nothing that counts, and an
    unknown element is as good as absent. -/
def declaring (inClassifier : Bool) (taken : List String) (tag : Tag) (isEmpty : Bool) (inside : Forest)
    (within : Bool → List String → Except DocumentFault Outline)
    (following : List String → Except DocumentFault Outline) : Except DocumentFault Outline :=
  match TagKind.ofName tag.name with
  | .package => do
    let record ← PackageTag.read tag
    let taken ← takeKey record.key? taken
    let inside ← within false taken
    let rest ← following (taken ++ inside.keys)
    return .element ⟨record.name, record.key?, .package⟩ inside rest
  | .classifier => do
    let record ← ClassifierTag.read tag
    let taken ← takeKey record.key? taken
    let inside ← within true taken
    let rest ← following (taken ++ inside.keys)
    let kind := classifierKind tag.name record.classifier
    return .element ⟨record.name, record.key?, .classifier kind record.classifier⟩ inside rest
  | .useCase => do
    let record ← UseCaseTag.read tag
    let taken ← takeKey record.key? taken
    let rest ← following taken
    return .element ⟨record.name, record.key?, .useCase record.stereotype?⟩ .nil rest
  | .attr => do
    let record ← attributeOf tag inside
    if inClassifier then return .attr record (← following taken)
    else .error (.strayMember .attr)
  | .operation => do
    let operation ← readOperationTag tag
    let record ← inside.operation { operation }
    if inClassifier then return .operation record (← following taken)
    else .error (.strayMember .operation)
  | .literal => do
    let literal ← literalOf tag inside
    if inClassifier then return .literal literal (← following taken)
    else .error (.strayMember .literal)
  | .directed => do
    let link ← linkOf tag
    return .link link (← following taken)
  | .association => do
    let ends ← inside.ends
    return .link (.association ends) (← following taken)
  | .documentation =>
    if isEmpty then following taken
    else do
      let text ← inside.text
      return .documentation text (← following taken)
  | .unknown => following taken

/-- The outline of what an element holds, given whether the element is a classifier and the keys that
    are taken already. -/
def Forest.outline (inClassifier : Bool) (taken : List String) : Forest → Except DocumentFault Outline
  | nil => .ok .nil
  | element tag inside _ rest =>
    declaring inClassifier taken tag false inside
      (fun inClassifier taken => inside.outline inClassifier taken)
      (fun taken => rest.outline inClassifier taken)
  | empty tag rest =>
    declaring inClassifier taken tag true .nil (fun _ _ => .ok .nil)
      (fun taken => rest.outline inClassifier taken)
  | leaf _ rest => rest.outline inClassifier taken

/-! ### Resolved members -/

/-- The type of a member: the element that its key names, or else the type that is written. -/
def resolvedType (lookup : String → Option ElementId) (key? : Option String) (written : MemberType) :
    MemberType :=
  match key?.bind lookup with
  | some id => .element id
  | none => written

/-- The attribute with its type resolved. -/
def AttributeTag.resolved (lookup : String → Option ElementId) (record : AttributeTag) : Attribute :=
  { record.member with type := resolvedType lookup record.typeKey? record.member.type }

/-- The parameter with its type resolved. -/
def ParameterTag.resolved (lookup : String → Option ElementId) (record : ParameterTag) : Parameter :=
  { record.parameter with type := resolvedType lookup record.typeKey? record.parameter.type }

/-- The operation with the types of its parameters resolved. -/
def OperationRecord.resolved (lookup : String → Option ElementId) (record : OperationRecord) :
    Operation :=
  { record.operation with parameters := record.parameters.map (·.resolved lookup) }

/-! ### Views of an outline -/

namespace Outline

/-- The number of elements that an outline declares. -/
def size : Outline → Nat
  | nil => 0
  | element _ inside rest => inside.size + 1 + rest.size
  | attr _ rest | operation _ rest | literal _ rest | documentation _ rest | link _ rest =>
    rest.size

/-- The attributes declared in the container itself. -/
def attributes : Outline → List AttributeTag
  | nil => []
  | attr record rest => record :: rest.attributes
  | element _ _ rest | operation _ rest | literal _ rest | documentation _ rest | link _ rest =>
    rest.attributes

/-- The operations declared in the container itself. -/
def operations : Outline → List OperationRecord
  | nil => []
  | operation record rest => record :: rest.operations
  | element _ _ rest | attr _ rest | literal _ rest | documentation _ rest | link _ rest =>
    rest.operations

/-- The literals declared in the container itself. -/
def literals : Outline → List Literal
  | nil => []
  | literal found rest => found :: rest.literals
  | element _ _ rest | attr _ rest | operation _ rest | documentation _ rest | link _ rest =>
    rest.literals

/-- The last documentation of the container itself, or what has been `found` before. -/
def documentationAfter (found : String) : Outline → String
  | nil => found
  | documentation text rest => rest.documentationAfter text
  | element _ _ rest | attr _ rest | operation _ rest | literal _ rest | link _ rest =>
    rest.documentationAfter found

/-- The relationships declared at any depth, in document order. -/
def links : Outline → List Link
  | nil => []
  | link found rest => found :: rest.links
  | element _ inside rest => inside.links ++ rest.links
  | attr _ rest | operation _ rest | literal _ rest | documentation _ rest => rest.links

/-- The identities of the elements that the container itself declares, the first being `next`. -/
def ids (next : ElementId) : Outline → List ElementId
  | nil => []
  | element _ inside rest => next :: rest.ids (next + 1 + inside.size)
  | attr _ rest | operation _ rest | literal _ rest | documentation _ rest | link _ rest =>
    rest.ids next

/-- The keys that an outline declares with the identities of their elements. -/
def keyed (next : ElementId) : Outline → List (String × ElementId)
  | nil => []
  | element entry inside rest =>
    entry.key?.toList.map (·, next) ++ inside.keyed (next + 1) ++ rest.keyed (next + 1 + inside.size)
  | attr _ rest | operation _ rest | literal _ rest | documentation _ rest | link _ rest =>
    rest.keyed next

/-- The keys that members and use cases refer to, with what they stand for, in document order. -/
def mentions : Outline → List (ReferenceContext × String)
  | nil => []
  | element entry inside rest =>
    (match entry.kind with
      | .useCase stereotypeKey? => stereotypeKey?.toList.map (.stereotype, ·)
      | _ => []) ++ inside.mentions ++ rest.mentions
  | attr record rest => record.typeKey?.toList.map (.attributeType, ·) ++ rest.mentions
  | operation record rest =>
    (record.parameters.filterMap ParameterTag.typeKey?).map (.parameterType, ·) ++ rest.mentions
  | literal _ rest | documentation _ rest | link _ rest => rest.mentions

/-! ### The model of an outline -/

/-- The content of an element with the members that are declared inside it. -/
def content (lookup : String → Option ElementId) (entry : Entry) (inside : Outline) : Content :=
  match entry.kind with
  | .package => .package
  | .classifier kind data =>
    .classifier kind {
      data with
      attributes := inside.attributes.map (·.resolved lookup)
      operations := inside.operations.map (·.resolved lookup)
      literals := inside.literals }
  | .useCase stereotypeKey? => .useCase (stereotypeKey?.bind lookup)

/-- The elements of an outline in document order, numbered from `next` on. Each is owned by the
    container that it stands in, and owns the elements that stand directly in it. -/
def elements (lookup : String → Option ElementId) (parent next : ElementId) : Outline → List Element
  | nil => []
  | element entry inside rest =>
    { id := next
      name := entry.name
      documentation := inside.documentationAfter ""
      parent? := some parent
      owned := inside.ids (next + 1)
      content := content lookup entry inside } ::
      (inside.elements lookup next (next + 1) ++
        rest.elements lookup parent (next + 1 + inside.size))
  | attr _ rest | operation _ rest | literal _ rest | documentation _ rest | link _ rest =>
    rest.elements lookup parent next

/-- The model itself, as its own first element. -/
def rootElement (name : String) (outline : Outline) : Element where
  id := Model.root
  name
  documentation := outline.documentationAfter ""
  parent? := none
  owned := outline.ids 1
  content := .model

/-- The model that the tag of a document and the outline of what it holds describe, as yet without its
    relationships. Where an element declares a key, that is the element the key names. -/
def unrelated (record : ModelTag) (outline : Outline) : Model where
  author? := record.author?
  elements := (rootElement record.name outline ::
    outline.elements (fun key => (outline.keyed 1).reverse.lookup key) Model.root 1).toArray
  relationships := []
  keys := (outline.keyed 1).reverse

/-- The model that the tag of a document and the outline of what it holds describe. Every key that is
    referred to has to be declared, and every association has two ends. -/
def model (record : ModelTag) (outline : Outline) : Except DocumentFault Model := do
  outline.mentions.forM fun (context, key) => do
    let _ ← Draft.resolveKey (outline.unrelated record) context key
  let relationships ← outline.links.mapM (Draft.resolveLink (outline.unrelated record))
  return { outline.unrelated record with relationships }

end Outline

/-- The model of a document, by plain recursion over its tree. -/
def modelOf (tag : Tag) (inside : Forest) : Except DocumentFault Model := do
  let record ← ModelTag.read tag
  let outline ← inside.outline false []
  outline.model record

end Blueprint.Document
