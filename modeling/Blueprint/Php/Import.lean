/-
Module: Blueprint.Php.Import
Purpose: What a classifier needs imported into its unit. The candidates come in groups: the types of its
  attributes, the traits it uses, its superclasses, its interfaces, the types in signatures, and the
  stereotypes of the use cases it owns. A type that only a tag names is never imported.
Main exports: importCandidates, importsOf
-/
import Blueprint.Php.Supertype

namespace Blueprint.Php

/-- The elements that are types of attributes. -/
def attributeTypes (classifier : Classifier) : List ElementId :=
  classifier.attributes.filterMap fun member =>
    match member.type with
    | .element id => some id
    | _ => none

/-- The stereotypes of the use cases that an element owns. -/
def useCaseStereotypes (model : Model) (id : ElementId) : List ElementId :=
  (model.owned id).filterMap fun child =>
    match (model.element? child).map Element.content with
    | some (.useCase stereotype?) => stereotype?
    | _ => none

/-- The qualified names that the declaration of an element mentions, group by group. -/
def importCandidates (model : Model) (id : ElementId) : List String :=
  let qualified := List.map (qualifiedName model)
  qualified (((model.classifier? id).map attributeTypes).getD []) ++
    qualified ((traitsOf model id).map TraitUse.target) ++
    qualified ((superclasses model id).filterMap Supertype.element?) ++
    qualified ((superinterfaces model id).filterMap Supertype.element?) ++
    signatureTypes model id ++
    qualified (useCaseStereotypes model id)

/-- The candidates that a unit in the namespace has to import, each once, in order. -/
def importsOf (model : Model) (id : ElementId) (namespaceName : String) : List String :=
  ((importCandidates model id).filter (needsImport · namespaceName)).eraseDups

end Blueprint.Php
