/-
Module: Blueprint.Proofs.Model.Elements
Purpose: What each operation on a model does to the element at a place. An operation changes the elements
  that it names and leaves every other one as it is.
Main exports: element?_modify, modify_modify_self, modify_congr, element?_add_of_lt, element?_add_new,
  classifier?_modifyClassifier
-/
import Blueprint.Model.Basic

namespace Blueprint.Model

variable {model : Model} {id other parent : ElementId}

/-- Changing an element changes that element only. -/
theorem element?_modify (model : Model) (id other : ElementId) (change : Element → Element) :
    (model.modify id change).element? other =
      if id = other then (model.element? other).map change else model.element? other := by
  simp only [modify, element?, Array.getElem?_modify]

/-- Two changes of one element are one change. -/
theorem modify_modify_self (model : Model) (id : ElementId) (first second : Element → Element) :
    (model.modify id first).modify id second = model.modify id fun element => second (first element) := by
  simp only [modify, mk.injEq, true_and, and_true]
  refine Array.ext_getElem? fun place => ?_
  simp only [Array.getElem?_modify]
  split
  · cases model.elements[place]? <;> rfl
  · rfl

/-- Changes of different elements may be made in either order. -/
theorem modify_modify_of_ne (model : Model) (different : id ≠ other) (first second : Element → Element) :
    (model.modify id first).modify other second = (model.modify other second).modify id first := by
  simp only [modify, mk.injEq, true_and, and_true]
  refine Array.ext_getElem? fun place => ?_
  simp only [Array.getElem?_modify]
  split
  · rename_i same
    subst same
    simp only [if_neg different]
  · rfl

/-- Changes that agree on the element make the same model. -/
theorem modify_congr {first second : Element → Element}
    (agree : ∀ element, model.element? id = some element → first element = second element) :
    model.modify id first = model.modify id second := by
  simp only [modify, mk.injEq, true_and, and_true]
  refine Array.ext_getElem? fun place => ?_
  simp only [Array.getElem?_modify]
  split
  · rename_i same
    subst same
    cases found : model.elements[id]? with
    | none => rfl
    | some element => simp [agree element found]
  · rfl

@[simp]
theorem nextId_modify (model : Model) (id : ElementId) (change : Element → Element) :
    (model.modify id change).nextId = model.nextId := by
  simp [modify, nextId]

@[simp]
theorem nextId_modifyClassifier (model : Model) (id : ElementId) (change : Classifier → Classifier) :
    (model.modifyClassifier id change).nextId = model.nextId :=
  nextId_modify ..

@[simp]
theorem nextId_add (model : Model) (parent : ElementId) (name : String) (content : Content) :
    (model.add parent name content).nextId = model.nextId + 1 := by
  simp [add, nextId]

/-- What has a kind is a classifier of that kind. -/
theorem exists_classifier_of_kind? {content : Content} {kind : ClassifierKind}
    (known : content.kind? = some kind) : ∃ classifier, content = .classifier kind classifier := by
  cases content with
  | classifier kind' classifier =>
      cases known
      exact ⟨classifier, rfl⟩
  | model | package | useCase => cases known

theorem element?_isSome_iff : (model.element? id).isSome ↔ id < model.nextId := by
  simp [element?, nextId]

/-- An element that exists is one of at least one. -/
theorem exists_size_eq_succ (known : (model.element? id).isSome) :
    ∃ fewer, model.elements.size = fewer + 1 := by
  have inside : id < model.elements.size := element?_isSome_iff.mp known
  exact ⟨_, (Nat.sub_add_cancel (Nat.one_le_of_lt inside)).symm⟩

@[simp]
theorem content_own (owner : Element) (child : ElementId) : (owner.own child).content = owner.content := by
  unfold Element.own
  split <;> rfl

/-- Adding an element leaves the ones before it as they are, but for the list of its parent. -/
theorem element?_add_of_lt (name : String) (content : Content) (known : other < model.nextId) :
    (model.add parent name content).element? other =
      if parent = other then (model.element? other).map (·.own model.nextId)
      else model.element? other := by
  have before : other ≠ model.elements.size := Nat.ne_of_lt known
  simp only [add, element?, Array.getElem?_modify, Array.getElem?_push, before, if_false]

/-- The new element stands at the next identity. -/
theorem element?_add_new (name : String) (content : Content) (known : parent < model.nextId) :
    (model.add parent name content).element? model.nextId =
      some { id := model.nextId, name, parent? := some parent, content } := by
  have other : parent ≠ model.elements.size := Nat.ne_of_lt known
  simp only [add, element?, nextId, Array.getElem?_modify, if_neg other, Array.getElem?_push_size]

/-- Changing a classifier changes that classifier only. -/
theorem classifier?_modifyClassifier (model : Model) (id other : ElementId)
    (change : Classifier → Classifier) :
    (model.modifyClassifier id change).classifier? other =
      if id = other then (model.classifier? other).map change else model.classifier? other := by
  simp only [classifier?, modifyClassifier, element?_modify]
  split
  · cases model.element? other with
    | none => rfl
    | some element =>
        cases found : element.content <;> simp [found, Content.mapClassifier, Content.classifier?]
  · rfl

theorem classifier?_add_of_lt (name : String) (content : Content) (known : other < model.nextId) :
    (model.add parent name content).classifier? other = model.classifier? other := by
  simp only [classifier?, element?_add_of_lt name content known]
  split
  · cases model.element? other <;> simp
  · rfl

theorem classifier?_add_new (name : String) (content : Content) (known : parent < model.nextId) :
    (model.add parent name content).classifier? model.nextId = content.classifier? := by
  simp [classifier?, element?_add_new name content known]

theorem classifier?_modify_of_content (change : Element → Element)
    (keeps : ∀ element, (change element).content = element.content) :
    (model.modify id change).classifier? other = model.classifier? other := by
  simp only [classifier?, element?_modify]
  split
  · cases model.element? other <;> simp [keeps]
  · rfl

end Blueprint.Model
