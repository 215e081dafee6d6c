/-
Module: Blueprint.Proofs.Php.AssociationEnds
Purpose: Ends of associations as members. A class or an interface has the ends that face it across an
  association: the second end if it is at the first one, and the first if it is at the second. Of these it
  declares the ones that can be reached and have a name that none of its attributes has. Across an association
  with itself it is at both ends; if both can be reached, the first one is never declared.
Main exports: Model.associations, Association.facing, Association.IsMutualLoop, Subject.DeclaresEnd,
  memberEnds_eq, memberEnds_eq_facing_iff, navigable_ends_become_members
-/
import Blueprint.Proofs.Php.Declaration
import Mathlib.Data.List.Basic
import Mathlib.Data.List.Flatten

namespace Blueprint

/-- The association that a relationship is, if it is one. -/
def Relationship.association? : Relationship → Option Association
  | association ends => some ends
  | generalization .. | realization .. | dependency .. => none

/-- The associations of a model. -/
def Model.associations (model : Model) : List Association :=
  model.relationships.filterMap Relationship.association?

/-- The ends that are opposite to an element. An element at both ends is opposite to both. -/
def Association.facing (ends : Association) (id : ElementId) : List AssociationEnd :=
  (if ends.first.element = id then [ends.second] else []) ++
    (if ends.second.element = id then [ends.first] else [])

/-- The element is at both ends, and both can be reached. -/
def Association.IsMutualLoop (ends : Association) (id : ElementId) : Prop :=
  ends.first.element = id ∧ ends.second.element = id ∧ ends.first.navigable = true ∧ ends.second.navigable = true

instance (ends : Association) (id : ElementId) : Decidable (ends.IsMutualLoop id) :=
  inferInstanceAs (Decidable (_ ∧ _))

/-- The ends that an association can give an element as members. -/
def Association.offered (ends : Association) (id : ElementId) : List AssociationEnd :=
  if ends.IsMutualLoop id then [ends.second] else ends.facing id

end Blueprint

namespace Blueprint.Php

variable {rendering : Rendering} {subject : Subject} {id : ElementId} {form : Form} {ends : Association}

/-- An end that faces the subject is one of its members: it can be reached, and it has a name that no attribute
    has. -/
def Subject.DeclaresEnd (subject : Subject) (found : AssociationEnd) : Prop :=
  found.navigable = true ∧ found.name ≠ "" ∧ ∀ member ∈ subject.classifier.attributes, member.name ≠ found.name

instance (subject : Subject) (found : AssociationEnd) : Decidable (subject.DeclaresEnd found) :=
  inferInstanceAs (Decidable (_ ∧ _))

/-- Of the ends that are offered, the one that is chosen is the only one that can be reached. -/
theorem endFrom?_eq (ends : Association) (id : ElementId) :
    (ends.endFrom? id).toList = (ends.offered id).filter (·.navigable) := by
  unfold Association.endFrom? Association.offered Association.facing Association.IsMutualLoop
  by_cases atFirst : ends.first.element = id <;> by_cases atSecond : ends.second.element = id <;>
    by_cases firstReached : ends.first.navigable = true <;>
    by_cases secondReached : ends.second.navigable = true <;>
    simp [atFirst, atSecond, firstReached, secondReached]

/-- Nothing can be reached across an association that does not touch the element. -/
theorem endFrom?_eq_none (apart : (Relationship.association ends).involves id = false) : ends.endFrom? id = none := by
  rw [Relationship.involves, Bool.or_eq_false_iff, beq_eq_false_iff_ne, beq_eq_false_iff_ne] at apart
  rw [Association.endFrom?, if_neg fun reached => apart.1 reached.1, if_neg fun reached => apart.2 reached.1]

/-- The members that are ends are the ones offered that the subject declares, in the order of the associations. -/
theorem memberEnds_eq (rendering : Rendering) (subject : Subject) :
    rendering.memberEnds subject =
      rendering.model.associations.flatMap fun ends =>
        (ends.offered subject.id).filter fun found => subject.DeclaresEnd found := by
  let member := fun (ends : Association) => (ends.endFrom? subject.id).filter fun found =>
    !found.name.isEmpty && !subject.classifier.attributes.any (·.name == found.name)
  have each : rendering.memberEnds subject = rendering.model.associations.filterMap member := by
    unfold Rendering.memberEnds Model.relationshipsOf Model.associations
    rw [List.filterMap_filter, List.filterMap_filterMap]
    apply List.filterMap_congr
    intro relationship _
    cases relationship with
    | generalization | realization | dependency => exact ite_self none
    | association ends =>
        split
        · rfl
        · rename_i apart
          have none := endFrom?_eq_none (Bool.not_eq_true _ ▸ apart)
          simp [Relationship.association?, member, none]
  rw [each, List.filterMap_eq_flatMap_toList]
  apply List.flatMap_congr
  intro ends _
  rw [Option.toList_filter, endFrom?_eq, List.filter_filter]
  apply List.filter_congr
  intro found _
  rw [Bool.eq_iff_iff, decide_eq_true_iff]
  simp [Subject.DeclaresEnd, and_comm]

theorem offered_sublist_facing (ends : Association) (id : ElementId) :
    (ends.offered id).Sublist (ends.facing id) := by
  unfold Association.offered
  split
  · rename_i loop
    rw [Association.facing, if_pos loop.1]
    exact List.sublist_append_left _ _
  · exact List.Sublist.refl _

/-- Lists of parts make the same list only if all parts are the same, when one has no more in each part than the
    other. -/
theorem flatMap_eq_iff_of_sublist {α β : Type} {items : List α} {part whole : α → List β}
    (within : ∀ item ∈ items, (part item).Sublist (whole item)) :
    items.flatMap part = items.flatMap whole ↔ ∀ item ∈ items, part item = whole item := by
  induction items with
  | nil => simp
  | cons item items ih =>
      obtain ⟨here, later⟩ := List.forall_mem_cons.mp within
      rw [List.flatMap_cons, List.flatMap_cons, List.forall_mem_cons, ← ih later]
      constructor
      · intro same
        have lengths := congrArg List.length same
        rw [List.length_append, List.length_append] at lengths
        have first := here.length_le
        have rest := (List.Sublist.flatMap_right items later).length_le
        exact List.append_inj same (by omega)
      · rintro ⟨first, rest⟩
        rw [first, rest]

/-- All ends that face a subject and that it can declare become members exactly when it declares the first end of
    no association that leads to itself in both directions. -/
theorem memberEnds_eq_facing_iff (rendering : Rendering) (subject : Subject) :
    (rendering.memberEnds subject =
      rendering.model.associations.flatMap fun ends =>
        (ends.facing subject.id).filter fun found => subject.DeclaresEnd found) ↔
      ∀ ends ∈ rendering.model.associations, ends.IsMutualLoop subject.id → ¬subject.DeclaresEnd ends.first := by
  rw [memberEnds_eq, flatMap_eq_iff_of_sublist fun ends _ => (offered_sublist_facing ends subject.id).filter _]
  apply forall₂_congr
  intro ends _
  rw [Association.offered]
  split
  · rename_i loop
    rw [Association.facing, if_pos loop.1, if_pos loop.2.1, List.filter_append]
    simp [loop]
  · rename_i other
    simp [other]

/-- The members of a subject that are ends of associations, each with its doc block and a blank line behind it. -/
theorem endFields_eq (rendering : Rendering) (subject : Subject) :
    rendering.endFields subject =
      .concat ((rendering.model.associations.flatMap fun ends =>
        (ends.offered subject.id).filter fun found => subject.DeclaresEnd found).map fun found =>
          rendering.docBlock (rendering.variableDoc (.ofEnd found)) ++ .ofText (Variable.ofEnd found).declaration ++
            .blank) := by
  rw [Rendering.endFields, memberEnds_eq]
  congr 1
  apply List.map_congr_left
  intro found member
  obtain ⟨ends, -, chosen⟩ := List.mem_flatMap.mp member
  obtain ⟨-, named, -⟩ := of_decide_eq_true (List.mem_filter.mp chosen).2
  have filled : (Variable.ofEnd found).name.isEmpty = false := by simpa [Variable.ofEnd] using named
  rw [Rendering.field, if_neg (by simp [filled]), spaced]

/-- Association ends as members. Wherever a class or an interface is declared, it has behind the variables of its
    attributes one variable for each end that its associations offer, that can be reached and has a name which no
    attribute has. The variable has the visibility, the flags, the default and the multiplicity of the end, and the
    element at the end for its type. An association offers the ends that face the subject, save that one between
    the subject and itself offers its second end only, if both can be reached. So all ends that face the subject are
    declared exactly when it would not declare the first end of such an association. -/
theorem navigable_ends_become_members (found : Subject.find? rendering.model id = some subject) (depth : Nat) :
    let variableOf := fun (far : AssociationEnd) =>
      rendering.docBlock ("@var " ++ rendering.typeText far.shape .documentation true ++ " " ++
          Text.trim far.documentation) ++
        .ofText (" ".intercalate (
          (if far.isLeaf then ["const " ++ Text.upperText far.name]
          else far.visibility.keyword?.toList ++ (if far.isStatic then ["static"] else []) ++
            ["$" ++ far.name]) ++ (Variable.ofEnd far).initializer) ++ ";")
    let members := rendering.model.associations.flatMap fun ends =>
      (ends.offered id).filter fun far => subject.DeclaresEnd far
    rendering.declareNested (depth + 1) .classForm id =
      rendering.elementImports subject ++ rendering.docBlock (rendering.docWithAuthor subject.element.documentation) ++
        .block (rendering.classHeader subject)
          (rendering.traitUses subject ++ .blank ++ rendering.attributeFields subject ++
            .concat (members.map fun far => variableOf far ++ .blank) ++
            .concat ((rendering.classMethods subject).map fun method =>
              spaced (rendering.classMethod subject method)) ++
            nestedIn rendering depth .classForm subject.element).withoutFinalBlank ∧
    rendering.declareNested (depth + 1) .interfaceForm id =
      rendering.elementImports subject ++ rendering.docBlock subject.element.documentation ++
        .block (rendering.interfaceHeader subject)
          (rendering.attributeFields subject ++ .concat (members.map fun far => variableOf far ++ .blank) ++
            rendering.bareMethods subject true ++
            nestedIn rendering depth .interfaceForm subject.element).withoutFinalBlank ∧
    (members = (rendering.model.associations.flatMap fun ends =>
        (ends.facing id).filter fun far => subject.DeclaresEnd far) ↔
      ∀ ends ∈ rendering.model.associations, ends.IsMutualLoop id → ¬subject.DeclaresEnd ends.first) := by
  obtain ⟨rfl, -, -⟩ := eq_of_find? found
  have fields := endFields_eq rendering subject
  refine ⟨?_, ?_, ?_⟩
  · rw [declareNested_succ found]
    change rendering.classDeclaration subject _ = _
    rw [Rendering.classDeclaration, Rendering.classMembers, fields]
    rfl
  · rw [declareNested_succ found]
    change rendering.interfaceDeclaration subject _ = _
    rw [Rendering.interfaceDeclaration, fields]
    rfl
  · rw [← memberEnds_eq]
    exact memberEnds_eq_facing_iff rendering subject

/-- Persons, each of whom knows parents and children. -/
def kinship : Model where
  author? := none
  elements := #[
    { id := 0, name := "Project", parent? := none, owned := [1], content := .model },
    { id := 1, name := "Person", parent? := some 0, content := .classifier .classType {} }]
  relationships := [.association generations]
  keys := []
where
  /-- Both ends are persons, and both can be reached. -/
  generations : Association :=
    { first := { element := 1, name := "parent", navigable := true }
      second := { element := 1, name := "children", navigable := true, multiplicity := ⟨"*"⟩ } }

/-- A person declares the children and not the parent, although the parent has a name and can be reached. -/
theorem navigable_ends_become_members_kinship :
    ∃ person, Subject.find? kinship 1 = some person ∧ person.DeclaresEnd kinship.generations.first ∧
      ((renderingIn kinship { docs := false } "").declareNested 1 .classForm 1).lines.map SourceLine.text =
        ["class Person", "\x7b", "", "public $children = [];", "", "public function __construct()", "\x7b", "\x7d",
          "\x7d"] ∧
      (kinship.associations.flatMap fun ends =>
          (ends.offered 1).filter fun far => person.DeclaresEnd far) ≠
        kinship.associations.flatMap fun ends => (ends.facing 1).filter fun far => person.DeclaresEnd far := by
  let person : Subject :=
    ⟨1, { id := 1, name := "Person", parent? := some 0, content := .classifier .classType {} }, {}⟩
  have found : Subject.find? (renderingIn kinship { docs := false } "").model 1 = some person := rfl
  have declares : person.DeclaresEnd kinship.generations.first := by decide +kernel
  obtain ⟨declaration, -, all⟩ := navigable_ends_become_members found 0
  refine ⟨person, found, declares, ?_, ?_⟩
  · rw [declaration]
    decide +kernel
  · intro same
    exact all.mp same kinship.generations List.mem_cons_self (by decide +kernel) declares

end Blueprint.Php
