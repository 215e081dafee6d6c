/-
Module: Blueprint.Model.Basic
Purpose: The model: elements in the order of their creation, relationships in the order of their
  declaration, and the keys by which documents refer to elements. Containment is recorded twice:
  every element names its parent, and every element that can own others lists them in order.
Main exports: Classifier, ClassifierKind, Content, Element, Model, Model.add, Model.register?,
  Model.lookup, Model.findNamed, Model.relationshipsOf, Model.packagePath
-/
import Blueprint.Model.Relationship
import Blueprint.Text.Lines

namespace Blueprint

/-- What classes, interfaces, enumerations and annotation types have in common. Only enumerations
    make use of literals. -/
structure Classifier where
  stereotype? : Option String := none
  visibility : Visibility := .pub
  isStatic : Bool := false
  isAbstract : Bool := false
  isLeaf : Bool := false
  attributes : List Attribute := []
  operations : List Operation := []
  literals : List Literal := []
deriving DecidableEq, Repr, Inhabited

namespace Classifier

/-- The tags of the stereotype: its parts between commas, trimmed, without the empty ones. -/
def tags (classifier : Classifier) : List String :=
  ((Text.splitText ',' (classifier.stereotype?.getD "")).map Text.trim).filter fun tag =>
    !tag.isEmpty

/-- The whole stereotype is the given word. -/
def isMarked (classifier : Classifier) (word : String) : Bool :=
  classifier.stereotype?.map Text.trim == some word

/-- The classifier declares an operation of the given name. -/
def declares (classifier : Classifier) (name : String) : Bool :=
  classifier.operations.any fun operation => operation.name == name

end Classifier

/-- The kinds of classifiers. -/
inductive ClassifierKind where
  | classType
  | interface
  | enumeration
  | annotationType
deriving DecidableEq, Repr, Inhabited

/-- What an element is. Of a use case, the classifier that its stereotype names is known. -/
inductive Content where
  | model
  | package
  | classifier (kind : ClassifierKind) (classifier : Classifier)
  | useCase (stereotype? : Option ElementId)
deriving DecidableEq, Repr, Inhabited

namespace Content

/-- The word for the kind of an element. -/
def label : Content → String
  | model => "model"
  | package => "package"
  | classifier .classType _ => "class"
  | classifier .interface _ => "interface"
  | classifier .enumeration _ => "enumeration"
  | classifier .annotationType _ => "annotation type"
  | useCase _ => "use case"

/-- The classifier, if the element is one. -/
def classifier? : Content → Option Classifier
  | classifier _ data => some data
  | _ => none

/-- The kind of the classifier, if the element is one. -/
def kind? : Content → Option ClassifierKind
  | classifier kind _ => some kind
  | _ => none

/-- The content with its classifier changed, if it is one. -/
def mapClassifier (change : Classifier → Classifier) : Content → Content
  | classifier kind data => classifier kind (change data)
  | other => other

/-- Every element but a use case can own others. -/
def canOwn : Content → Bool
  | useCase _ => false
  | _ => true

/-- The element is the model itself or a package. -/
def isPackage : Content → Bool
  | model | package => true
  | _ => false

/-- The element is a class; a trait is a class, too. -/
def isClass (content : Content) : Bool :=
  content.kind? == some .classType

/-- The element is an interface. -/
def isInterface (content : Content) : Bool :=
  content.kind? == some .interface

end Content

/-- A node of the containment tree. -/
structure Element where
  id : ElementId
  name : String
  documentation : String := ""
  parent? : Option ElementId
  owned : List ElementId := []
  content : Content
deriving DecidableEq, Repr, Inhabited

/-- The element with one more owned element, if it can own any. -/
def Element.own (owner : Element) (child : ElementId) : Element :=
  if owner.content.canOwn then { owner with owned := owner.owned ++ [child] } else owner

/-- A model. The element at place `i` is the one with identity `i`; the model itself is the first. -/
structure Model where
  author? : Option String
  elements : Array Element
  relationships : List Relationship
  keys : List (String × ElementId)
deriving DecidableEq, Repr

namespace Model

/-- The identity of the model itself. -/
def root : ElementId := 0

/-- A model that holds nothing but itself. -/
def named (name : String) (author? : Option String) : Model where
  author?
  elements := #[{ id := root, name, parent? := none, content := .model }]
  relationships := []
  keys := []

instance : Inhabited Model := ⟨named "" none⟩

/-! ### Elements -/

/-- The element with the given identity. -/
def element? (model : Model) (id : ElementId) : Option Element :=
  model.elements[id]?

/-- The name of an element. -/
def nameOf (model : Model) (id : ElementId) : String :=
  ((model.element? id).map Element.name).getD ""

/-- The classifier with the given identity. -/
def classifier? (model : Model) (id : ElementId) : Option Classifier :=
  (model.element? id).bind (·.content.classifier?)

/-- The element exists and is an interface. -/
def isInterface (model : Model) (id : ElementId) : Bool :=
  (model.element? id).any (·.content.isInterface)

/-- The element exists and is a class. -/
def isClass (model : Model) (id : ElementId) : Bool :=
  (model.element? id).any (·.content.isClass)

/-- The elements that an element owns, in order. -/
def owned (model : Model) (id : ElementId) : List ElementId :=
  ((model.element? id).map Element.owned).getD []

/-- The model with one element changed. -/
def modify (model : Model) (id : ElementId) (change : Element → Element) : Model :=
  { model with elements := model.elements.modify id change }

/-- The model with the classifier of one element changed. -/
def modifyClassifier (model : Model) (id : ElementId) (change : Classifier → Classifier) : Model :=
  model.modify id fun element => { element with content := element.content.mapClassifier change }

/-- The identity that the next new element gets. -/
def nextId (model : Model) : ElementId :=
  model.elements.size

/-- The model with a new element below `parent`. The element is created in any case; it is listed as
    owned if the parent exists and can own elements. -/
def add (model : Model) (parent : ElementId) (name : String) (content : Content) : Model :=
  let child : Element := { id := model.nextId, name, parent? := some parent, content }
  { model with elements := (model.elements.push child).modify parent (·.own model.nextId) }

/-! ### Relationships and keys -/

/-- The model with one more relationship. -/
def relate (model : Model) (relationship : Relationship) : Model :=
  { model with relationships := model.relationships ++ [relationship] }

/-- The relationships that touch an element, in order. -/
def relationshipsOf (model : Model) (id : ElementId) : List Relationship :=
  model.relationships.filter (·.involves id)

/-- The element that a key refers to. -/
def lookup (model : Model) (key : String) : Option ElementId :=
  model.keys.lookup key

/-- The model with one more key, or nothing when the key is taken. -/
def register? (model : Model) (key : String) (id : ElementId) : Option Model :=
  if (model.lookup key).isSome then none else some { model with keys := (key, id) :: model.keys }

/-- The first element of the given name. -/
def findNamed (model : Model) (name : String) : Option ElementId :=
  (model.elements.find? (·.name == name)).map Element.id

/-- The element that a text names: by key if it is one, or else by name. -/
def findElement (model : Model) (text : String) : Option ElementId :=
  (model.lookup text).or (model.findNamed text)

/-! ### Packages -/

/-- The names of the packages from an element upwards to the first that is no package, outermost
    first. At most `depth` packages are passed. -/
def packageNames (model : Model) : (depth : Nat) → (from? : Option ElementId) → List String
  | 0, _ => []
  | _, none => []
  | depth + 1, some id =>
    match model.element? id with
    | some ⟨_, name, _, parent?, _, .package⟩ => model.packageNames depth parent? ++ [name]
    | _ => []

/-- The names of the packages around an element, outermost first; the model itself is none of them.
    No chain of parents is longer than the number of elements. -/
def packagePath (model : Model) (id : ElementId) : List String :=
  model.packageNames model.elements.size ((model.element? id).bind Element.parent?)

end Model

end Blueprint
