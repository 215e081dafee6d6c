/-
Module: Blueprint.Model.Validation
Purpose: The structural rules that a model should keep. Generation copes with a model that breaks
  them; validation reports the first violation: members before relationships, elements and
  relationships in order, and within an element its attributes before its operations.
Main exports: RelationshipFault, Violation, Model.validate
-/
import Blueprint.Model.Basic

namespace Blueprint

/-- What the ends of a relationship do wrong. -/
inductive RelationshipFault where
  | selfGeneralization
  | generalizationKinds
  | realizationSource
  | realizationTarget
  | dependencyKinds
deriving DecidableEq, Repr

/-- The kind of relationship that a fault belongs to. -/
def RelationshipFault.relationship : RelationshipFault → String
  | .selfGeneralization | .generalizationKinds => "generalization"
  | .realizationSource | .realizationTarget => "realization"
  | .dependencyKinds => "dependency"

/-- What a fault finds wrong. -/
def RelationshipFault.complaint : RelationshipFault → String
  | .selfGeneralization => "element extends itself"
  | .generalizationKinds => "endpoints must both be classes or both be interfaces"
  | .realizationSource => "source is not a classifier"
  | .realizationTarget => "target is not an interface"
  | .dependencyKinds => "endpoints must be classifiers"

/-- A broken rule. -/
inductive Violation where
  | multiplicity (holder : String) (value : String)
  | severalResults (operation : String) (count : Nat)
  | relationship (fault : RelationshipFault) (source target : String)
  | missingElement (id : ElementId)
deriving DecidableEq, Repr

/-- The wording of a violation. -/
def Violation.message : Violation → String
  | .multiplicity holder value => "invalid multiplicity '" ++ value ++ "' on '" ++ holder ++ "'"
  | .severalResults operation count =>
    "operation '" ++ operation ++ "' declares " ++ toString count ++ " return parameters"
  | .relationship fault source target =>
    fault.relationship ++ " from '" ++ source ++ "' to '" ++ target ++ "': " ++ fault.complaint
  | .missingElement id => "element '" ++ id.label ++ "' not found"

/-! ### Members -/

/-- The multiplicity of a member must be valid. -/
def checkMultiplicity (holder : String) (multiplicity : Multiplicity) : Except Violation Unit :=
  if multiplicity.isValid then .ok () else .error (.multiplicity holder multiplicity.text)

/-- An operation returns at most one value, and its parameters have valid multiplicities. -/
def Operation.validate (owner : String) (operation : Operation) : Except Violation Unit := do
  let path := owner ++ "." ++ operation.name ++ "()"
  let results := operation.parameters.countP Parameter.isResult
  if results > 1 then .error (.severalResults path results)
  operation.parameters.forM fun parameter =>
    checkMultiplicity (path ++ ":" ++ parameter.name) parameter.multiplicity

/-- The attributes of a classifier have valid multiplicities, and its operations are valid. -/
def Classifier.validate (owner : String) (classifier : Classifier) : Except Violation Unit := do
  classifier.attributes.forM fun member =>
    checkMultiplicity (owner ++ "." ++ member.name) member.multiplicity
  classifier.operations.forM (Operation.validate owner)

/-- An element that is a classifier must be a valid one. -/
def Element.validate (element : Element) : Except Violation Unit :=
  match element.content.classifier? with
  | some classifier => classifier.validate element.name
  | none => .ok ()

/-! ### Relationships -/

/-- Both ends of a relationship exist. -/
def Model.endpoints (model : Model) (source target : ElementId) :
    Except Violation (Element × Element) := do
  let some source ← pure (model.element? source) | .error (.missingElement source)
  let some target ← pure (model.element? target) | .error (.missingElement target)
  return (source, target)

/-- The fault in a relationship between two elements, named with both. -/
def relationshipViolation (fault : RelationshipFault) (source target : Element) :
    Except Violation Unit :=
  .error (.relationship fault source.name target.name)

/-- The rule of each kind of relationship. -/
def Relationship.validate (model : Model) : Relationship → Except Violation Unit
  | .generalization source target => do
    let (s, t) ← model.endpoints source target
    if source = target then relationshipViolation .selfGeneralization s t
    else if (s.content.isClass && t.content.isClass) ||
        (s.content.isInterface && t.content.isInterface) then .ok ()
    else relationshipViolation .generalizationKinds s t
  | .realization source target => do
    let (s, t) ← model.endpoints source target
    if s.content.classifier?.isNone then relationshipViolation .realizationSource s t
    else if !t.content.isInterface then relationshipViolation .realizationTarget s t
    else .ok ()
  | .dependency source target _ => do
    let (s, t) ← model.endpoints source target
    if s.content.classifier?.isNone || t.content.classifier?.isNone then
      relationshipViolation .dependencyKinds s t
    else .ok ()
  | .association ends => do
    let (s, t) ← model.endpoints ends.first.element ends.second.element
    let holder := fun (associationEnd : AssociationEnd) =>
      s.name ++ "--" ++ t.name ++ ":" ++ associationEnd.name
    checkMultiplicity (holder ends.first) ends.first.multiplicity
    checkMultiplicity (holder ends.second) ends.second.multiplicity

/-- The first violation of a rule, if there is one. -/
def Model.validate (model : Model) : Except Violation Unit := do
  model.elements.toList.forM Element.validate
  model.relationships.forM (Relationship.validate model)

end Blueprint
