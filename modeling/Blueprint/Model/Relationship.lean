/-
Module: Blueprint.Model.Relationship
Purpose: Relationships between two elements of a model. Three kinds are directed from a source to a
  target. An association joins two ends; each end says how its element is seen from the other one.
Main exports: AssociationEnd, Association, Relationship
-/
import Blueprint.Model.Member

namespace Blueprint

/-- One end of an association: an element and the member by which the opposite element knows it.
    A document refers to the element by a key, a model by its identity. -/
structure AssociationEnd (Ref : Type := ElementId) where
  element : Ref
  name : String := ""
  documentation : String := ""
  navigable : Bool := false
  multiplicity : Multiplicity := ⟨""⟩
  visibility : Visibility := .pub
  isStatic : Bool := false
  isLeaf : Bool := false
  default? : Option String := none
deriving DecidableEq, Repr, Inhabited

/-- The end with the reference to its element replaced. -/
def AssociationEnd.withElement {Ref Other : Type} (associationEnd : AssociationEnd Ref)
    (element : Other) : AssociationEnd Other :=
  { associationEnd with element }

/-- The shape of the member that an end stands for: its type is the element at the end. -/
def AssociationEnd.shape (associationEnd : AssociationEnd) : Shape :=
  ⟨.element associationEnd.element, associationEnd.multiplicity, associationEnd.default?, true⟩

/-- An association of two elements. -/
structure Association where
  first : AssociationEnd
  second : AssociationEnd
deriving DecidableEq, Repr, Inhabited

/-- The end that can be reached from an element across the association. An element at both ends
    reaches the second end, or else the first one. -/
def Association.endFrom? (association : Association) (id : ElementId) : Option AssociationEnd :=
  if association.first.element = id ∧ association.second.navigable then some association.second
  else if association.second.element = id ∧ association.first.navigable then
    some association.first
  else none

/-- A relationship of a model. A dependency between classes stands for the use of a trait; its
    mapping settles conflicts between the traits used. -/
inductive Relationship where
  | generalization (source target : ElementId)
  | realization (source target : ElementId)
  | dependency (source target : ElementId) (mapping? : Option String)
  | association (association : Association)
deriving DecidableEq, Repr, Inhabited

namespace Relationship

/-- The element that a directed relationship goes out from. -/
def source? : Relationship → Option ElementId
  | generalization source _ | realization source _ | dependency source _ _ => some source
  | association _ => none

/-- The element that a directed relationship leads to. -/
def target? : Relationship → Option ElementId
  | generalization _ target | realization _ target | dependency _ target _ => some target
  | association _ => none

/-- The relationship touches the element. -/
def involves (id : ElementId) : Relationship → Bool
  | generalization source target | realization source target | dependency source target _ =>
    source == id || target == id
  | association ends => ends.first.element == id || ends.second.element == id

end Relationship

end Blueprint
