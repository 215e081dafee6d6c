/-
Module: Blueprint.Proofs.Model.Unnamed
Purpose: Models less unnamed members. Members of chosen elements are left out unless they have a name; the
  elements stay, with their places, their names and what they own, and so do the relationships. What is asked
  of a model without looking at members is answered alike, and an operation is declared under a name that is
  not empty before if and only if it is afterwards.
Main exports: Classifier.keeping, Model.withoutUnnamed, Model.classifier?_withoutUnnamed,
  Classifier.Spares.filter_operations, Classifier.declares_keeping
-/
import Blueprint.Proofs.Model.Classifiers
import Mathlib.Data.List.Basic

namespace Blueprint

/-! ### Members by name -/

/-- The classifier with those members only whose names are kept. -/
def Classifier.keeping (kept : String → Bool) (classifier : Classifier) : Classifier :=
  { classifier with
    attributes := classifier.attributes.filter (kept ·.name)
    operations := classifier.operations.filter (kept ·.name)
    literals := classifier.literals.filter (kept ·.name) }

/-- The element with those members only whose names are kept. -/
def Element.keeping (kept : String → Bool) (element : Element) : Element :=
  { element with content := element.content.mapClassifier (.keeping kept) }

/-- The name is kept for a member of the element: any name, unless the element is chosen; then any but the
    empty one. -/
def keptIn (chosen : ElementId → Bool) (id : ElementId) (name : String) : Bool :=
  !chosen id || !name.isEmpty

/-- The model without the unnamed members of the chosen elements. -/
def Model.withoutUnnamed (model : Model) (chosen : ElementId → Bool) : Model :=
  { model with elements := model.elements.mapIdx fun id => Element.keeping (keptIn chosen id) }

variable {model : Model} {chosen : ElementId → Bool} {id : ElementId} {kept : String → Bool}
  {classifier : Classifier}

theorem keptIn_of_named {name : String} (named : name ≠ "") : keptIn chosen id name = true := by
  simp [keptIn, named]

/-- What is not kept is an unnamed member of a chosen element. -/
theorem keptIn_eq_false {name : String} :
    keptIn chosen id name = false ↔ chosen id = true ∧ name = "" := by
  simp [keptIn]

/-- Named members stay. -/
theorem filter_named_keeping {α : Type} {name : α → String} (keeps : ∀ text, text ≠ "" → kept text = true)
    (members : List α) :
    (members.filter fun member => kept (name member)).filter (fun member => !(name member).isEmpty) =
      members.filter fun member => !(name member).isEmpty := by
  rw [List.filter_filter]
  apply List.filter_congr
  intro member _
  by_cases named : name member = ""
  · simp [named]
  · simp [keeps _ named]

/-! ### Queries -/

namespace Model

@[simp] theorem classifier?_withoutUnnamed (model : Model) (chosen : ElementId → Bool) (id : ElementId) :
    (model.withoutUnnamed chosen).classifier? id =
      (model.classifier? id).map (.keeping (keptIn chosen id)) :=
  model.classifier?_mapClassifiers _ id

@[simp] theorem nameOf_withoutUnnamed (model : Model) (chosen : ElementId → Bool) (id : ElementId) :
    (model.withoutUnnamed chosen).nameOf id = model.nameOf id :=
  model.nameOf_mapClassifiers _ id

@[simp] theorem isClass_withoutUnnamed (model : Model) (chosen : ElementId → Bool) (id : ElementId) :
    (model.withoutUnnamed chosen).isClass id = model.isClass id :=
  model.isClass_mapClassifiers _ id

end Model

/-! ### Operations -/

/-- No operation of the classifier is left out whose name is in question. -/
def Classifier.Spares (classifier : Classifier) (kept asked : String → Bool) : Prop :=
  ∀ operation ∈ classifier.operations, asked operation.name = true → kept operation.name = true

namespace Classifier

variable {asked : String → Bool}

/-- The operations that are asked for, and chosen in whatever way, are the same afterwards. -/
theorem Spares.filter_operations (spares : classifier.Spares kept asked) {wanted : Operation → Bool}
    (only : ∀ operation, wanted operation = true → asked operation.name = true) :
    (classifier.keeping kept).operations.filter wanted = classifier.operations.filter wanted := by
  rw [keeping, List.filter_filter]
  apply List.filter_congr
  intro operation declared
  cases wants : wanted operation with
  | false => rfl
  | true => exact spares operation declared (only operation wants)

/-- An operation of a name in question is declared afterwards if it is before. -/
theorem Spares.declares (spares : classifier.Spares kept asked) {name : String} (asks : asked name = true) :
    (classifier.keeping kept).declares name = classifier.declares name := by
  rw [Bool.eq_iff_iff, Classifier.declares, Classifier.declares, List.any_eq_true, List.any_eq_true]
  constructor
  · rintro ⟨operation, kept, same⟩
    exact ⟨operation, List.mem_of_mem_filter kept, same⟩
  · rintro ⟨operation, declared, same⟩
    have stays := spares operation declared (by rwa [beq_iff_eq.mp same])
    exact ⟨operation, List.mem_filter.mpr ⟨declared, stays⟩, same⟩

/-- Of the operations of a classifier, those that another one does not declare are the same, as far as they
    are asked for. -/
theorem Spares.filter_undeclared {owner : Classifier} {keptByOwner : String → Bool}
    (spares : owner.Spares keptByOwner asked) (spared : classifier.Spares kept asked)
    (also : Operation → Bool) :
    (classifier.keeping kept).operations.filter (fun operation =>
        asked operation.name && (also operation && !(owner.keeping keptByOwner).declares operation.name)) =
      classifier.operations.filter fun operation =>
        asked operation.name && (also operation && !owner.declares operation.name) := by
  have wanted : ∀ operation : Operation,
      (asked operation.name && (also operation && !(owner.keeping keptByOwner).declares operation.name)) =
        (asked operation.name && (also operation && !owner.declares operation.name)) := by
    intro operation
    cases asks : asked operation.name with
    | false => rfl
    | true => rw [spares.declares asks]
  simp only [wanted]
  apply spared.filter_operations
  intro operation both
  exact (Bool.and_eq_true_iff.mp both).1

theorem declares_keeping {name : String} (keeps : kept name = true) (classifier : Classifier) :
    (classifier.keeping kept).declares name = classifier.declares name := by
  have spares : classifier.Spares kept (· == name) := by
    intro operation _ same
    rwa [beq_iff_eq.mp same]
  exact spares.declares (beq_iff_eq.mpr rfl)

end Classifier

end Blueprint
