/-
Module: Blueprint.Proofs.Php.Classifiers
Purpose: What does not depend on the data of classifiers. Names and namespaces, the elements that relationships lead
  to, the stereotypes of use cases and the forms of nested declarations are the same whatever becomes of the data.
Main exports: qualifiedName_mapClassifiers, interfacesOf_mapClassifiers, traitsOf_mapClassifiers,
  useCaseStereotypes_mapClassifiers, nestedForm?_mapClassifiers, find?_mapClassifiers
-/
import Blueprint.Php.Declaration
import Blueprint.Proofs.Model.Classifiers
import Mathlib.Data.List.Basic

namespace Blueprint.Php

variable (model : Model) (change : ElementId → Classifier → Classifier) (id : ElementId)

@[simp] theorem namespaceOf_mapClassifiers : namespaceOf (model.mapClassifiers change) id = namespaceOf model id := by
  rw [namespaceOf, Model.packagePath_mapClassifiers, namespaceOf]

@[simp] theorem qualifiedName_mapClassifiers :
    qualifiedName (model.mapClassifiers change) id = qualifiedName model id := by
  rw [qualifiedName, namespaceOf_mapClassifiers, Model.nameOf_mapClassifiers, qualifiedName]

@[simp] theorem interfacesOf_mapClassifiers :
    interfacesOf (model.mapClassifiers change) id = interfacesOf model id := by
  have interfaces : (model.mapClassifiers change).isInterface = model.isInterface :=
    funext (model.isInterface_mapClassifiers change)
  rw [interfacesOf, interfaces]
  rfl

@[simp] theorem traitsOf_mapClassifiers : traitsOf (model.mapClassifiers change) id = traitsOf model id := by
  unfold traitsOf
  simp only [Model.isClass_mapClassifiers]
  rfl

@[simp] theorem useCaseStereotypes_mapClassifiers :
    useCaseStereotypes (model.mapClassifiers change) id = useCaseStereotypes model id := by
  rw [useCaseStereotypes, Model.owned_mapClassifiers, useCaseStereotypes]
  apply List.filterMap_congr
  intro child _
  rw [Model.element?_mapClassifiers]
  cases model.element? child with
  | none => rfl
  | some element =>
      rcases element with ⟨_, _, _, _, _, content⟩
      cases content <;> rfl

/-- An element is nested in the same form. -/
theorem nestedForm?_mapClassifiers (form : Form) :
    ((model.mapClassifiers change).element? id).bind (Rendering.nestedForm? form) =
      (model.element? id).bind (Rendering.nestedForm? form) := by
  rw [Model.element?_mapClassifiers]
  cases model.element? id with
  | none => rfl
  | some element => simp [Rendering.nestedForm?, Element.mapClassifier]

/-- An element is the same subject, with other data. -/
theorem find?_mapClassifiers : Subject.find? (model.mapClassifiers change) id =
    (Subject.find? model id).map fun subject =>
      ⟨subject.id, subject.element.mapClassifier (change id), change id subject.classifier⟩ := by
  rw [Subject.find?, Model.element?_mapClassifiers, Subject.find?]
  cases model.element? id with
  | none => rfl
  | some element => simp [Element.mapClassifier, Function.comp_def]

end Blueprint.Php
