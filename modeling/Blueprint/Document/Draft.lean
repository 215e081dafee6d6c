/-
Module: Blueprint.Document.Draft
Purpose: A model whose references are still keys. A document may refer to an element before it
  declares it, so references are recorded while it is read, and are replaced by the elements they
  name when the whole document is known: first the types of members and the stereotypes of use
  cases, in the order in which they were recorded, then the relationships in theirs.
Main exports: Reference, Link, Draft, Draft.resolve
-/
import Blueprint.Document.Tag

namespace Blueprint.Document

open Blueprint.Markup (Tag)

/-- A reference to be replaced in an element of the draft. -/
inductive Reference where
  | attributeType (owner : ElementId) (index : Nat) (key : String)
  | parameterType (owner : ElementId) (operation index : Nat) (key : String)
  | stereotype (owner : ElementId) (key : String)
deriving DecidableEq, Repr

/-- A relationship between elements that are given by their keys. -/
inductive Link where
  | generalization (source target : String)
  | realization (source target : String)
  | dependency (source target : String) (mapping? : Option String)
  | association (ends : List (AssociationEnd String))
deriving DecidableEq, Repr

/-- A model with the references and relationships that its document has declared so far. -/
structure Draft where
  model : Model
  references : List Reference := []
  links : List Link := []

namespace Draft

/-! ### Elements and members -/

/-- The draft of a model that has just been opened. -/
def ofTag (tag : Tag) : Except DocumentFault Draft := do
  let record ← ModelTag.read tag
  return { model := Model.named record.name record.author? }

/-- The draft with a key given to an element. A key names one element only. -/
def register (draft : Draft) (key? : Option String) (id : ElementId) : Except DocumentFault Draft :=
  match key? with
  | none => .ok draft
  | some key =>
    match draft.model.register? key id with
    | some model => .ok { draft with model }
    | none => .error (.duplicateKey key)

/-- The draft with a new element, which gets the next identity. -/
def addElement (draft : Draft) (parent : ElementId) (name : String) (key? : Option String)
    (content : Content) : Except DocumentFault Draft :=
  { draft with model := draft.model.add parent name content }.register key? draft.model.nextId

/-- The draft with a new package. -/
def addPackage (draft : Draft) (parent : ElementId) (tag : Tag) : Except DocumentFault Draft := do
  let record ← PackageTag.read tag
  draft.addElement parent record.name record.key? .package

/-- The draft with a new classifier. -/
def addClassifier (draft : Draft) (parent : ElementId) (tag : Tag) : Except DocumentFault Draft := do
  let record ← ClassifierTag.read tag
  draft.addElement parent record.name record.key?
    (.classifier (classifierKind tag.name record.classifier) record.classifier)

/-- The draft with a new use case. -/
def addUseCase (draft : Draft) (parent : ElementId) (tag : Tag) : Except DocumentFault Draft := do
  let record ← UseCaseTag.read tag
  let id := draft.model.nextId
  let draft ← draft.addElement parent record.name record.key? (.useCase none)
  match record.stereotype? with
  | none => return draft
  | some key => return { draft with references := draft.references ++ [.stereotype id key] }

/-- The classifier that a member belongs to. -/
def ownerOf (draft : Draft) (owner : ElementId) (kind : MemberKind) :
    Except DocumentFault Classifier :=
  match draft.model.classifier? owner with
  | some classifier => .ok classifier
  | none => .error (.strayMember kind)

/-- The draft with an attribute added to a classifier. -/
def addAttribute (draft : Draft) (owner : ElementId) (record : AttributeTag) :
    Except DocumentFault Draft := do
  let classifier ← draft.ownerOf owner .attr
  let index := classifier.attributes.length
  return {
    draft with
    model := draft.model.modifyClassifier owner fun classifier =>
      { classifier with attributes := classifier.attributes ++ [record.member] }
    references := draft.references ++
      record.typeKey?.toList.map fun key => .attributeType owner index key }

/-- The draft with an operation added to a classifier, given the keys of its parameters' types. -/
def addOperation (draft : Draft) (owner : ElementId) (operation : Operation)
    (keys : List (Nat × String)) : Except DocumentFault Draft := do
  let classifier ← draft.ownerOf owner .operation
  let index := classifier.operations.length
  return {
    draft with
    model := draft.model.modifyClassifier owner fun classifier =>
      { classifier with operations := classifier.operations ++ [operation] }
    references := draft.references ++
      keys.map fun (parameter, key) => .parameterType owner index parameter key }

/-- The draft with a literal added to a classifier. -/
def addLiteral (draft : Draft) (owner : ElementId) (literal : Literal) :
    Except DocumentFault Draft := do
  let _ ← draft.ownerOf owner .literal
  return {
    draft with
    model := draft.model.modifyClassifier owner fun classifier =>
      { classifier with literals := classifier.literals ++ [literal] } }

/-- The draft with the documentation of an element set. -/
def document (draft : Draft) (id : ElementId) (text : String) : Draft :=
  { draft with model := draft.model.modify id fun element => { element with documentation := text } }

/-- The draft with one more relationship. -/
def link (draft : Draft) (link : Link) : Draft :=
  { draft with links := draft.links ++ [link] }

/-- The draft with the directed relationship of a tag. Both its ends must be given. -/
def addDirected (draft : Draft) (tag : Tag) : Except DocumentFault Draft := do
  let record ← DirectedTag.read tag
  let some source := record.source? | .error (.missingAttribute tag.name "source")
  let some target := record.target? | .error (.missingAttribute tag.name "target")
  match tag.name with
  | "generalization" => return draft.link (.generalization source target)
  | "realization" => return draft.link (.realization source target)
  | _ => return draft.link (.dependency source target record.mapping?)

/-! ### Resolution -/

/-- The element that a key names. -/
def resolveKey (model : Model) (context : ReferenceContext) (key : String) :
    Except DocumentFault ElementId :=
  match model.lookup key with
  | some id => .ok id
  | none => .error (.unknownReference key context)

/-- The model with one recorded reference replaced. A type that a reference gives prevails over one
    that is named. -/
def resolveReference (model : Model) : Reference → Except DocumentFault Model
  | .attributeType owner index key => do
    let target ← resolveKey model .attributeType key
    return model.modifyClassifier owner fun classifier =>
      { classifier with
        attributes := classifier.attributes.modify index fun member =>
          { member with type := .element target } }
  | .parameterType owner operation index key => do
    let target ← resolveKey model .parameterType key
    return model.modifyClassifier owner fun classifier =>
      { classifier with
        operations := classifier.operations.modify operation fun operation =>
          { operation with
            parameters := operation.parameters.modify index fun parameter =>
              { parameter with type := .element target } } }
  | .stereotype owner key => do
    let target ← resolveKey model .stereotype key
    return model.modify owner fun element =>
      match element.content with
      | .useCase _ => { element with content := .useCase (some target) }
      | _ => element

/-- The relationship that a link stands for. An association has exactly two ends. -/
def resolveLink (model : Model) : Link → Except DocumentFault Relationship
  | .generalization source target => do
    let source ← resolveKey model .generalization source
    let target ← resolveKey model .generalization target
    return .generalization source target
  | .realization source target => do
    let source ← resolveKey model .realization source
    let target ← resolveKey model .realization target
    return .realization source target
  | .dependency source target mapping? => do
    let source ← resolveKey model .dependency source
    let target ← resolveKey model .dependency target
    return .dependency source target mapping?
  | .association ends => do
    let ends ← ends.mapM fun unresolved => do
      return unresolved.withElement (← resolveKey model .associationEnd unresolved.element)
    match ends with
    | [first, second] => return .association ⟨first, second⟩
    | _ => .error .associationEnds

/-- The model that the draft stands for, when every key in it names an element. -/
def resolve (draft : Draft) : Except DocumentFault Model := do
  let model ← draft.references.foldlM resolveReference draft.model
  let relationships ← draft.links.mapM (resolveLink model)
  return { model with relationships := model.relationships ++ relationships }

end Draft

end Blueprint.Document
