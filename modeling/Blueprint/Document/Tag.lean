/-
Module: Blueprint.Document.Tag
Purpose: What the tags of a model document say. A tag gives values to the names it knows, one after
  the other: a name given twice under different spellings keeps the later value, and an unknown name
  says nothing. Only what stands in the tag itself is read here, not what the element holds.
Main exports: tagValues, readFlag, TagKind, ModelTag, PackageTag, ClassifierTag, UseCaseTag, DirectedTag,
  EndTag, AttributeTag, readOperationTag, ParameterTag, readLiteralTag
-/
import Blueprint.Document.Fault
import Blueprint.Markup.Attribute
import Blueprint.Markup.Escape
import Blueprint.Model.Basic

namespace Blueprint.Document

open Blueprint.Markup (Tag)

/-! ### Values -/

/-- The names and values that a tag gives, in order. A value that cannot be unescaped is a fault, also
    when nobody asks for its name. -/
def tagValues (tag : Tag) : Except DocumentFault (List (String × String)) :=
  (Markup.soundAttributes tag).mapM fun written =>
    match Markup.unescape written.value with
    | .ok value => .ok (written.name, value)
    | .error fault => .error (.escape fault)

/-- The record that the values of a tag make, each value in order being taken into it. -/
def gather {α : Type} (initial : α) (take : α → String → String → Except DocumentFault α) (tag : Tag) :
    Except DocumentFault α := do
  (← tagValues tag).foldlM (fun record (name, value) => take record name value) initial

/-- A truth value, with blanks around it. The empty text is false. -/
def readFlag (element name value : String) : Except DocumentFault Bool :=
  if ["true", "1", "yes"].contains (Text.trim value) then .ok true
  else if ["false", "0", "no", ""].contains (Text.trim value) then .ok false
  else .error (.invalidAttribute element name value)

/-- A visibility by its name. -/
def readVisibility (element value : String) : Except DocumentFault Visibility :=
  match Visibility.ofName? value with
  | some visibility => .ok visibility
  | none => .error (.invalidAttribute element "visibility" value)

/-- A direction by its name. -/
def readDirection (element value : String) : Except DocumentFault Direction :=
  match Direction.ofName? value with
  | some direction => .ok direction
  | none => .error (.invalidAttribute element "direction" value)

/-- The text, unless it is empty. -/
def nonempty? (value : String) : Option String :=
  if value.isEmpty then none else some value

/-- The text, unless it is blank. -/
def nonblank? (value : String) : Option String :=
  if Text.isBlankText value then none else some value

/-! ### Elements -/

/-- What a tag inside a model opens. -/
inductive TagKind where
  | package
  | classifier
  | attr
  | operation
  | literal
  | useCase
  | directed
  | association
  | documentation
  | unknown
deriving DecidableEq, Repr

/-- What a tag opens is told by its name. -/
def TagKind.ofName : String → TagKind
  | "package" => package
  | "class" | "interface" | "enumeration" | "annotationType" => classifier
  | "attribute" => attr
  | "operation" => operation
  | "literal" => literal
  | "useCase" => useCase
  | "generalization" | "realization" | "dependency" => directed
  | "association" => association
  | "documentation" => documentation
  | _ => unknown

/-- The tag of the model itself. -/
structure ModelTag where
  name : String := ""
  author? : Option String := none

/-- The name of a model and its author, if one is given. -/
def ModelTag.read : Tag → Except DocumentFault ModelTag :=
  gather {} fun record name value =>
    match name with
    | "name" => .ok { record with name := value }
    | "author" => .ok { record with author? := (nonempty? value).or record.author? }
    | _ => .ok record

/-- The tag of a package. -/
structure PackageTag where
  name : String := ""
  key? : Option String := none

/-- The name of a package and the key by which references find it. -/
def PackageTag.read : Tag → Except DocumentFault PackageTag :=
  gather {} fun record name value =>
    match name with
    | "name" => .ok { record with name := value }
    | "id" => .ok { record with key? := some value }
    | _ => .ok record

/-- The tag of a classifier. -/
structure ClassifierTag where
  name : String := ""
  key? : Option String := none
  classifier : Classifier := {}

/-- The name, the key and the properties of a classifier. -/
def ClassifierTag.read (tag : Tag) : Except DocumentFault ClassifierTag :=
  gather {} (fun record name value => do
    let classifier := record.classifier
    let update := fun (changed : Classifier) => { record with classifier := changed }
    match name with
    | "name" => return { record with name := value }
    | "id" => return { record with key? := some value }
    | "stereotype" =>
      return update { classifier with stereotype? := (nonblank? value).or classifier.stereotype? }
    | "visibility" =>
      return update { classifier with visibility := ← readVisibility tag.name value }
    | "abstract" =>
      return update { classifier with isAbstract := ← readFlag tag.name name value }
    | "static" => return update { classifier with isStatic := ← readFlag tag.name name value }
    | "final" | "leaf" => return update { classifier with isLeaf := ← readFlag tag.name name value }
    | _ => return record) tag

/-- The kind of classifier that a tag of the given name opens. A class that is marked as an annotation
    type is one. -/
def classifierKind (tagName : String) (classifier : Classifier) : ClassifierKind :=
  match tagName with
  | "interface" => .interface
  | "enumeration" => .enumeration
  | "annotationType" => .annotationType
  | _ => if classifier.isMarked "annotationType" then .annotationType else .classType

/-- The tag of a use case. -/
structure UseCaseTag where
  name : String := ""
  key? : Option String := none
  stereotype? : Option String := none

/-- The name and the key of a use case, and the key of its stereotype. -/
def UseCaseTag.read : Tag → Except DocumentFault UseCaseTag :=
  gather {} fun record name value =>
    match name with
    | "name" => .ok { record with name := value }
    | "id" => .ok { record with key? := some value }
    | "stereotypeRef" => .ok { record with stereotype? := some value }
    | _ => .ok record

/-! ### Relationships -/

/-- The tag of a directed relationship. -/
structure DirectedTag where
  source? : Option String := none
  target? : Option String := none
  mapping? : Option String := none

/-- The keys of the two elements, and the mapping of a dependency. -/
def DirectedTag.read : Tag → Except DocumentFault DirectedTag :=
  gather {} fun record name value =>
    match name with
    | "source" => .ok { record with source? := some value }
    | "target" => .ok { record with target? := some value }
    | "mapping" => .ok { record with mapping? := (nonblank? value).or record.mapping? }
    | _ => .ok record

/-- The tag of an association end. -/
structure EndTag where
  key? : Option String := none
  details : AssociationEnd Unit := { element := () }

/-- The key of the element at the end and the properties of the member that it stands for. -/
def EndTag.read : Tag → Except DocumentFault EndTag :=
  gather {} fun record name value => do
    let details := record.details
    let update := fun (changed : AssociationEnd Unit) => { record with details := changed }
    match name with
    | "reference" => return { record with key? := some value }
    | "name" => return update { details with name := value }
    | "navigable" => return update { details with navigable := ← readFlag "end" name value }
    | "multiplicity" => return update { details with multiplicity := ⟨value⟩ }
    | "default" => return update { details with default? := (nonempty? value).or details.default? }
    | "visibility" => return update { details with visibility := ← readVisibility "end" value }
    | "static" => return update { details with isStatic := ← readFlag "end" name value }
    | "final" | "leaf" => return update { details with isLeaf := ← readFlag "end" name value }
    | _ => return record

/-! ### Members -/

/-- A type that is not empty names one that the model does not describe. -/
def writtenType (value : String) (otherwise : MemberType) : MemberType :=
  match nonempty? value with
  | some name => .primitive name
  | none => otherwise

/-- The tag of an attribute. -/
structure AttributeTag where
  member : Attribute := {}
  typeKey? : Option String := none

/-- The properties of an attribute, and the key of the element that is its type. -/
def AttributeTag.read : Tag → Except DocumentFault AttributeTag :=
  gather {} fun record name value => do
    let member := record.member
    let update := fun (changed : Attribute) => { record with member := changed }
    match name with
    | "name" => return update { member with name := value }
    | "type" => return update { member with type := writtenType value member.type }
    | "typeRef" => return { record with typeKey? := some value }
    | "multiplicity" => return update { member with multiplicity := ⟨value⟩ }
    | "default" => return update { member with default? := some value }
    | "visibility" =>
      return update { member with visibility := ← readVisibility "attribute" value }
    | "static" => return update { member with isStatic := ← readFlag "attribute" name value }
    | "final" | "leaf" => return update { member with isLeaf := ← readFlag "attribute" name value }
    | "derived" => return update { member with isDerived := ← readFlag "attribute" name value }
    | _ => return record

/-- The properties of an operation. -/
def readOperationTag : Tag → Except DocumentFault Operation :=
  gather {} fun operation name value => do
    match name with
    | "name" => return { operation with name := value }
    | "visibility" =>
      return { operation with visibility := ← readVisibility "operation" value }
    | "static" => return { operation with isStatic := ← readFlag "operation" name value }
    | "abstract" => return { operation with isAbstract := ← readFlag "operation" name value }
    | "final" | "leaf" => return { operation with isLeaf := ← readFlag "operation" name value }
    | _ => return operation

/-- The tag of a parameter. -/
structure ParameterTag where
  parameter : Parameter := {}
  typeKey? : Option String := none

/-- The properties of a parameter, and the key of the element that is its type. -/
def ParameterTag.read : Tag → Except DocumentFault ParameterTag :=
  gather {} fun record name value => do
    let parameter := record.parameter
    let update := fun (changed : Parameter) => { record with parameter := changed }
    match name with
    | "name" => return update { parameter with name := value }
    | "type" => return update { parameter with type := writtenType value parameter.type }
    | "typeRef" => return { record with typeKey? := some value }
    | "multiplicity" => return update { parameter with multiplicity := ⟨value⟩ }
    | "default" =>
      return update { parameter with default? := (nonempty? value).or parameter.default? }
    | "direction" =>
      return update { parameter with direction := ← readDirection "parameter" value }
    | _ => return record

/-- The name of a literal. -/
def readLiteralTag : Tag → Except DocumentFault Literal :=
  gather {} fun literal name value =>
    match name with
    | "name" => .ok { literal with name := value }
    | _ => .ok literal

end Blueprint.Document
