/-
Module: Blueprint.Php.Supertype
Purpose: What a classifier is declared to extend, implement and use. Relationships give elements of the
  model. The tags of a stereotype give further types by name: a tag that begins with "extends" names
  a superclass, and any other tag except "trait" is itself a marker interface.
Main exports: Supertype, superclasses, superinterfaces, parentClass?, TraitUse, traitsOf,
  interfacesOf, signatureTypes
-/
import Blueprint.Php.Name

namespace Blueprint.Php

/-- A superclass or an interface: an element, or a type that only a tag names. -/
inductive Supertype where
  | element (id : ElementId)
  | tagged (name : String)
deriving DecidableEq, Repr

namespace Supertype

/-- The name by which a declaration refers to the supertype. -/
def name (model : Model) : Supertype → String
  | element id => model.nameOf id
  | tagged name => name

/-- The element, if the supertype is one. -/
def element? : Supertype → Option ElementId
  | element id => some id
  | tagged _ => none

/-- The type that a tag names, by its absolute name. -/
def ofTag (name : String) : Supertype :=
  if name.toList.head? = some separatorChar then tagged name else tagged (separator ++ name)

end Supertype

/-- The tags of the element's stereotype; only classifiers have any. -/
def tagsOf (model : Model) (id : ElementId) : List String :=
  ((model.classifier? id).map Classifier.tags).getD []

/-- The word that begins a tag for a superclass. -/
def extendsWord : String :=
  "extends "

/-- The superclass that a tag names. -/
def superclassOfTag? (tag : String) : Option Supertype :=
  match Text.after? extendsWord.toList tag.toList with
  | none => none
  | some rest =>
    let name := Text.trim (String.ofList rest)
    if name.isEmpty then none else some (.ofTag name)

/-- The marker interface that a tag names. -/
def interfaceOfTag? (tag : String) : Option Supertype :=
  if tag == "trait" || (Text.after? extendsWord.toList tag.toList).isSome then none
  else some (.ofTag tag)

/-- The elements that an element specializes, in order. -/
def generalizedBy (model : Model) (id : ElementId) : List ElementId :=
  model.relationships.filterMap fun
    | .generalization source target => if source = id then some target else none
    | _ => none

/-- The elements that an element realizes, in order. -/
def realizedBy (model : Model) (id : ElementId) : List ElementId :=
  model.relationships.filterMap fun
    | .realization source target => if source = id then some target else none
    | _ => none

/-- The superclasses of an element: those of the model before those of the tags. -/
def superclasses (model : Model) (id : ElementId) : List Supertype :=
  (generalizedBy model id).map .element ++ (tagsOf model id).filterMap superclassOfTag?

/-- The interfaces of an element: those of the model before those of the tags. -/
def superinterfaces (model : Model) (id : ElementId) : List Supertype :=
  (realizedBy model id).map .element ++ (tagsOf model id).filterMap interfaceOfTag?

/-- The first superclass, if it is a class of the model. -/
def parentClass? (model : Model) (id : ElementId) : Option ElementId :=
  ((superclasses model id).head?.bind Supertype.element?).filter model.isClass

/-- The realized elements that are interfaces of the model. -/
def interfacesOf (model : Model) (id : ElementId) : List ElementId :=
  (realizedBy model id).filter model.isInterface

/-- A trait that a class uses, and how conflicts with the other traits are settled. -/
structure TraitUse where
  target : ElementId
  mapping? : Option String
deriving DecidableEq, Repr

/-- The traits that an element uses: the classes that it depends on. -/
def traitsOf (model : Model) (id : ElementId) : List TraitUse :=
  model.relationships.filterMap fun
    | .dependency source target mapping? =>
      if source = id ∧ model.isClass target then some ⟨target, mapping?⟩ else none
    | _ => none

/-- The qualified names of the elements that are types in the signature of an operation. -/
def operationTypes (model : Model) (operation : Operation) : List String :=
  (operation.arguments ++ operation.result?.toList).filterMap fun parameter =>
    match parameter.type with
    | .element id => some (qualifiedName model id)
    | _ => none

/-- The qualified names of the elements that are types in the signatures of the operations of an
    element and of its interfaces. -/
def signatureTypes (model : Model) (id : ElementId) : List String :=
  (id :: interfacesOf model id).flatMap fun owner =>
    ((model.classifier? owner).map Classifier.operations).getD [] |>.flatMap
      (operationTypes model)

end Blueprint.Php
