/-
Module: Blueprint.Proofs.Php.Namespace
Purpose: The namespace of an element, and of the unit in which it is declared. A namespace is made of the
  packages right above an element, and it ends below the first element of another kind. All packages above an
  element are in its namespace if and only if nothing but packages stands between them. What is declared inside
  another declaration is owned by a classifier, so that its namespace is the top level, wherever the unit is.
Main exports: exists_owner_of_declarations, namespaceOf_of_surrounded, namespace_ends_below_other_kinds
-/
import Blueprint.Proofs.Model.Ancestry
import Blueprint.Proofs.Php.Denotation
import Blueprint.Proofs.Php.Inventory

namespace Blueprint.Php

variable {model : Model} {options : Options} {subject : Subject} {form inner : Form} {id owner : ElementId}
  {unit : SourceUnit}

section Tree

variable (tree : model.IsTree)

include tree

/-- What is declared inside another declaration is owned by a classifier. -/
theorem exists_owner_of_declarations {depth : Nat}
    (member : (inner, subject) ∈ declarations model depth form id) :
    subject.id = id ∨ ∃ owner, model.parentOf? subject.id = some owner ∧ (model.kind? owner).isSome := by
  induction depth generalizing form id with
  | zero => cases member
  | succ depth ih =>
      rw [declarations] at member
      cases found : Subject.find? model id with
      | none =>
          rw [found] at member
          cases member
      | some outer =>
          rw [found] at member
          obtain ⟨same, place, isClassifier⟩ := eq_of_find? found
          rcases List.mem_cons.mp member with here | nested
          · cases here
            exact .inl same
          · split at nested
            · cases nested
            · obtain ⟨child, owned, deeper⟩ := List.mem_flatMap.mp nested
              split at deeper
              · right
                rcases ih deeper with rfl | further
                · refine ⟨id, tree.parent_of_owned id _ ((Model.mem_owned place).mpr owned), ?_⟩
                  rw [Model.classifier?, place, Option.bind_some] at isClassifier
                  rw [Model.kind?, place, Option.bind_some]
                  cases content : outer.element.content with
                  | classifier kind data => rfl
                  | model | package | useCase => simp [content, Content.classifier?] at isClassifier
                · exact further
              · cases deeper

/-- What a classifier owns is at the top level. -/
theorem namespaceOf_of_surrounded (parent : model.parentOf? id = some owner)
    (surrounded : (model.kind? owner).isSome) : namespaceOf model id = "" := by
  obtain ⟨kind, known⟩ := Option.isSome_iff_exists.mp surrounded
  obtain ⟨element, classifier, found, content⟩ := Model.kind?_eq_some_iff.mp known
  have other : model.isInnerPackage owner = false := by
    rw [Model.isInnerPackage, found, Option.any_some, content]
    rfl
  rw [namespaceOf, tree.packagePath_step, parent]
  simp only [other, Bool.false_eq_true, if_false]
  rfl

end Tree

/-- Namespaces. The chain of ancestors of an element holds each element above it, from the nearest upwards. The
    packages that make up its namespace are those at the beginning of the chain, outermost first, up to the
    first ancestor of another kind; they are all packages above the element exactly when no package is above an
    ancestor of another kind. In a unit, a declaration is in the namespace of the unit exactly if it is that of
    the unit's own classifier or the unit is at the top level: whatever is declared inside it is not. -/
theorem namespace_ends_below_other_kinds (tree : model.IsTree) (id : ElementId) :
    (∀ other, other ∈ model.ancestors id ↔ model.IsBelow id other) ∧
    (model.ancestors id).Pairwise model.IsBelow ∧
    model.packagePath id =
      (((model.ancestors id).takeWhile model.isInnerPackage).map model.nameOf).reverse ∧
    (model.packagePath id = model.packagesAbove id ↔
      ∀ low high, model.IsBelow id low → model.IsBelow low high → model.isInnerPackage high = true →
        model.isInnerPackage low = true) ∧
    ∀ options unit, unitOf? model options id = some unit →
      ∀ form subject, (form, subject) ∈ unitDeclarations model id →
        (namespaceOf model subject.id = unit.namespaceName ↔
          subject.id = id ∨ unit.namespaceName = "") := by
  refine ⟨fun other => tree.mem_ancestors_iff, tree.pairwise_ancestors id, tree.packagePath_eq_takeWhile id,
    tree.packagePath_eq_packagesAbove_iff id, ?_⟩
  intro options unit rendered form subject declared
  rw [namespaceName_unit rendered]
  unfold unitDeclarations at declared
  split at declared
  · rcases exists_owner_of_declarations tree declared with own | ⟨owner, parent, surrounded⟩
    · rw [own]
      simp
    · have top := namespaceOf_of_surrounded tree parent surrounded
      constructor
      · intro same
        exact .inr (same.symm.trans top)
      · rintro (own | outermost)
        · rw [own]
        · rw [top, outermost]
  · cases declared

/-- A class in a package, with a class and a package in it; the inner package has a class of its own. -/
def toolbox : Model where
  author? := none
  elements := #[
    { id := 0, name := "Project", parent? := none, owned := [1], content := .model },
    { id := 1, name := "App", parent? := some 0, owned := [2], content := .package },
    { id := 2, name := "Outer", parent? := some 1, owned := [3, 4], content := .classifier .classType {} },
    { id := 3, name := "Inner", parent? := some 2, content := .classifier .classType {} },
    { id := 4, name := "Parts", parent? := some 2, owned := [5], content := .package },
    { id := 5, name := "Leaf", parent? := some 4, content := .classifier .classType {} }]
  relationships := []
  keys := []

/-- The inner class is in no namespace, although its declaration is in a unit of the package; and the class of
    the inner package has lost the outer one. -/
theorem namespace_ends_below_other_kinds_toolbox : toolbox.IsTree ∧
    (toolbox.packagePath 3 = [] ∧ toolbox.packagesAbove 3 = ["App"]) ∧
    (toolbox.packagePath 5 = ["Parts"] ∧ toolbox.packagesAbove 5 = ["App", "Parts"]) ∧
    ∃ unit form subject, unitOf? toolbox {} 2 = some unit ∧ unit.namespaceName = "App" ∧
      (form, subject) ∈ unitDeclarations toolbox 2 ∧ subject.id = 3 ∧
      namespaceOf toolbox subject.id ≠ unit.namespaceName := by
  have tree : toolbox.IsTree := by
    apply Model.isTree_of_ordered <;> decide +kernel
  have above3 : toolbox.ancestors 3 = [2, 1, 0] := by decide +kernel
  have above5 : toolbox.ancestors 5 = [4, 2, 1, 0] := by decide +kernel
  obtain ⟨-, -, inner, -, -⟩ := namespace_ends_below_other_kinds tree 3
  obtain ⟨-, -, leaf, -, -⟩ := namespace_ends_below_other_kinds tree 5
  obtain ⟨-, -, -, -, declarations⟩ := namespace_ends_below_other_kinds tree 2
  rw [above3] at inner
  rw [above5] at leaf
  obtain ⟨unit, rendered⟩ : ∃ unit, unitOf? toolbox {} 2 = some unit :=
    Option.isSome_iff_exists.mp (by decide +kernel)
  have seen : (unitOf? toolbox {} 2).map SourceUnit.namespaceName = some "App" := by decide +kernel
  rw [rendered, Option.map_some, Option.some.injEq] at seen
  obtain ⟨form, subject, declared, own⟩ : ∃ form subject,
      (form, subject) ∈ unitDeclarations toolbox 2 ∧ subject.id = 3 := by
    let outer : Subject := ⟨2, toolbox.elements[2], {}⟩
    let inner : Subject := ⟨3, toolbox.elements[3], {}⟩
    have all : unitDeclarations toolbox 2 = [(.classForm, outer), (.classForm, inner)] := rfl
    rw [all]
    exact ⟨.classForm, inner, List.mem_cons_of_mem _ List.mem_cons_self, rfl⟩
  refine ⟨tree, ⟨inner.trans (by decide +kernel), by decide +kernel⟩,
    ⟨leaf.trans (by decide +kernel), by decide +kernel⟩, unit, form, subject, rendered, seen, declared, own, ?_⟩
  rw [ne_eq, declarations {} unit rendered form subject declared, seen, own]
  decide

end Blueprint.Php
