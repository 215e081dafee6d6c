/-
Module: Blueprint.Proofs.Model.Classifiers
Purpose: Models with other data of their classifiers. Whatever becomes of the data, the elements keep their kinds,
  their names and places and what they own, and the relationships stay; so the packages around an element are
  the same, too.
Main exports: Model.mapClassifiers, Model.element?_mapClassifiers, Model.classifier?_mapClassifiers,
  Model.packagePath_mapClassifiers
-/
import Blueprint.Model.Basic

namespace Blueprint

/-- The element with its classifier changed, if it is one. -/
def Element.mapClassifier (change : Classifier → Classifier) (element : Element) : Element :=
  { element with content := element.content.mapClassifier change }

/-- The model with the data of each classifier changed. -/
def Model.mapClassifiers (model : Model) (change : ElementId → Classifier → Classifier) : Model :=
  { model with elements := model.elements.mapIdx fun id => Element.mapClassifier (change id) }

@[simp] theorem Content.kind?_mapClassifier (change : Classifier → Classifier) (content : Content) :
    (content.mapClassifier change).kind? = content.kind? := by
  cases content <;> rfl

@[simp] theorem Content.classifier?_mapClassifier (change : Classifier → Classifier) (content : Content) :
    (content.mapClassifier change).classifier? = content.classifier?.map change := by
  cases content <;> rfl

namespace Model

variable (model : Model) (change : ElementId → Classifier → Classifier) (id : ElementId)

@[simp] theorem element?_mapClassifiers :
    (model.mapClassifiers change).element? id = (model.element? id).map (.mapClassifier (change id)) :=
  Array.getElem?_mapIdx

@[simp] theorem classifier?_mapClassifiers :
    (model.mapClassifiers change).classifier? id = (model.classifier? id).map (change id) := by
  rw [classifier?, element?_mapClassifiers, classifier?]
  cases model.element? id with
  | none => rfl
  | some element => exact Content.classifier?_mapClassifier _ element.content

theorem size_mapClassifiers : (model.mapClassifiers change).elements.size = model.elements.size :=
  Array.size_mapIdx

/-- An element stays a classifier of its kind. -/
theorem bind_kind?_mapClassifiers : ((model.mapClassifiers change).element? id).bind (·.content.kind?) =
    (model.element? id).bind (·.content.kind?) := by
  rw [element?_mapClassifiers]
  cases model.element? id with
  | none => rfl
  | some element => exact Content.kind?_mapClassifier _ element.content

@[simp] theorem nameOf_mapClassifiers : (model.mapClassifiers change).nameOf id = model.nameOf id := by
  rw [nameOf, element?_mapClassifiers, nameOf]
  cases model.element? id <;> rfl

@[simp] theorem owned_mapClassifiers : (model.mapClassifiers change).owned id = model.owned id := by
  rw [owned, element?_mapClassifiers, owned]
  cases model.element? id <;> rfl

@[simp] theorem isClass_mapClassifiers : (model.mapClassifiers change).isClass id = model.isClass id := by
  rw [isClass, element?_mapClassifiers, isClass]
  cases model.element? id with
  | none => rfl
  | some element => simp [Element.mapClassifier, Content.isClass]

@[simp] theorem isInterface_mapClassifiers :
    (model.mapClassifiers change).isInterface id = model.isInterface id := by
  rw [isInterface, element?_mapClassifiers, isInterface]
  cases model.element? id with
  | none => rfl
  | some element => simp [Element.mapClassifier, Content.isInterface]

theorem packageNames_mapClassifiers (depth : Nat) (from? : Option ElementId) :
    (model.mapClassifiers change).packageNames depth from? = model.packageNames depth from? := by
  induction depth generalizing from? with
  | zero => rfl
  | succ depth ih =>
      cases from? with
      | none => rfl
      | some id =>
          simp only [packageNames, element?_mapClassifiers]
          cases model.element? id with
          | none => rfl
          | some element =>
              rcases element with ⟨_, name, _, parent?, _, content⟩
              cases content <;> simp [Element.mapClassifier, Content.mapClassifier, ih]

@[simp] theorem packagePath_mapClassifiers :
    (model.mapClassifiers change).packagePath id = model.packagePath id := by
  rw [packagePath, packageNames_mapClassifiers, size_mapClassifiers, element?_mapClassifiers, packagePath]
  cases model.element? id <;> rfl

end Model

end Blueprint
