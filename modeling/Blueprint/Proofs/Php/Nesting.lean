/-
Module: Blueprint.Proofs.Php.Nesting
Purpose: Declarations nested in each other. Where containment is a tree, fewer elements are below an owned
  element than below its owner, so the depth that is allowed for nested declarations is never used up: a
  declaration holds the declarations of what its element owns, each as it stands by itself, one level
  further in.
Main exports: declareNested_stable, declareNested_eq, nestedDeclarations, declareAs_eq, Nests, nested_lines_infix
-/
import Blueprint.Proofs.Model.Containment
import Blueprint.Proofs.Php.Declaration

namespace Blueprint.Php

variable {rendering : Rendering} {subject : Subject} {form inner : Form} {id child : ElementId}
  {depth more : Nat}

section Tree

variable (tree : rendering.model.IsTree)

include tree

/-- Declarations do not depend on the depth that is allowed for them once it is more than the number of
    elements below: fewer are below each nested declaration. -/
theorem declareNested_stable (enough : (rendering.model.below id).card < depth)
    (enough' : (rendering.model.below id).card < more) (form : Form) :
    rendering.declareNested depth form id = rendering.declareNested more form id := by
  induction depth generalizing more id form with
  | zero => exact absurd enough (Nat.not_lt_zero _)
  | succ depth ih =>
      cases more with
      | zero => exact absurd enough' (Nat.not_lt_zero _)
      | succ more =>
          cases found : Subject.find? rendering.model id with
          | none => rw [declareNested_of_absent found, declareNested_of_absent found]
          | some subject =>
              obtain ⟨-, place, -⟩ := eq_of_find? found
              have nested : nestedIn rendering depth form subject.element =
                  nestedIn rendering more form subject.element := by
                apply congrArg Fragment.concat
                apply List.map_congr_left
                intro child listed
                have fewer := tree.card_below_lt_of_owned ((Model.mem_owned place).mpr listed)
                have less : (rendering.model.below child).card < depth := by omega
                have less' : (rendering.model.below child).card < more := by omega
                split
                · rw [ih less less']
                · rfl
              rw [declareNested_succ found, declareNested_succ found, nested]

/-- No nesting is deeper than the number of elements, so a greater depth gives the same declaration. -/
theorem declareNested_eq (enough : rendering.model.elements.size ≤ depth) (form : Form) (id : ElementId) :
    rendering.declareNested depth form id = rendering.declareAs form id := by
  cases known : (rendering.model.element? id).isSome with
  | true =>
      have fewer := tree.card_below_lt_size known
      exact declareNested_stable tree (Nat.lt_of_lt_of_le fewer enough) fewer form
  | false =>
      have unknown : rendering.model.element? id = none := by simpa using known
      have absent : Subject.find? rendering.model id = none := by rw [Subject.find?, unknown, Option.bind_none]
      rw [Rendering.declareAs, declareNested_of_absent absent, declareNested_of_absent absent]

end Tree

/-- The declarations of what an element owns, each followed by a blank line. -/
def nestedDeclarations (rendering : Rendering) (form : Form) (element : Element) : Fragment :=
  .concat (element.owned.map fun child =>
    match (rendering.model.element? child).bind (Rendering.nestedForm? form) with
    | some inner => spaced (rendering.declareAs inner child)
    | none => .empty)

/-- A declaration holds the declarations of what its element owns. -/
theorem declareAs_eq (tree : rendering.model.IsTree)
    (found : Subject.find? rendering.model id = some subject) (form : Form) :
    rendering.declareAs form id =
      declarationIn rendering subject (nestedDeclarations rendering form subject.element) form := by
  obtain ⟨-, place, -⟩ := eq_of_find? found
  have known := Option.isSome_of_eq_some place
  obtain ⟨depth, size⟩ := Model.exists_size_eq_succ known
  have all := tree.card_below_lt_size known
  have nested : nestedIn rendering depth form subject.element =
      nestedDeclarations rendering form subject.element := by
    apply congrArg Fragment.concat
    apply List.map_congr_left
    intro child listed
    have fewer := tree.card_below_lt_of_owned ((Model.mem_owned place).mpr listed)
    have less : (rendering.model.below child).card < depth := by omega
    have less' : (rendering.model.below child).card < rendering.model.elements.size := by omega
    cases (rendering.model.element? child).bind (Rendering.nestedForm? form) with
    | none => rfl
    | some inner => exact congrArg spaced (declareNested_stable tree less less' inner)
  rw [Rendering.declareAs, size, declareNested_succ found, nested]

/-! ### One level further in -/

open Fragment

/-- Lines of the nested declarations that are followed by a blank line stand in the declaration around
    them, one level further in. -/
theorem deeper_infix_declarationIn {lines : List SourceLine} {nested : Fragment} {blankLine : SourceLine}
    (holds : form ≠ .enumForm) (followed : lines ++ [blankLine] <:+: nested.lines) :
    lines.map SourceLine.deeper <:+: (declarationIn rendering subject nested form).lines := by
  have inside : ∀ (before members : Fragment) (header : String), lines.map SourceLine.deeper <:+:
      (before ++ block header (members ++ nested).withoutFinalBlank).lines := by
    intro before members header
    have kept : lines <:+: (members ++ nested).withoutFinalBlank.lines :=
      infix_withoutFinalBlank (followed.trans (List.suffix_append members.lines nested.lines).isInfix)
    refine (kept.map SourceLine.deeper).trans ?_
    refine List.IsInfix.trans ?_ (List.suffix_append before.lines _).isInfix
    exact List.infix_append (ofText header ++ ofText "\x7b").lines _ (ofText "\x7d").lines
  cases form with
  | classForm => exact inside _ _ _
  | interfaceForm => exact inside _ _ _
  | annotationForm => exact inside _ _ _
  | enumForm => exact absurd rfl holds

/-- The declaration of the second element is nested in that of the first, in a form. -/
structure Nests (model : Model) (id child : ElementId) (form inner : Form) : Prop where
  listed : child ∈ model.owned id
  holds : form ≠ .enumForm
  nested : (model.element? child).bind (Rendering.nestedForm? form) = some inner

/-- A nested declaration is, line for line, the declaration by itself, one level further in. -/
theorem nested_lines_infix (tree : rendering.model.IsTree)
    (found : Subject.find? rendering.model id = some subject)
    (nests : Nests rendering.model id child form inner) :
    (rendering.declareAs inner child).lines.map SourceLine.deeper <:+:
      (rendering.declareAs form id).lines := by
  obtain ⟨-, place, -⟩ := eq_of_find? found
  rw [declareAs_eq tree found]
  have followed : (spaced (rendering.declareAs inner child)).lines <:+:
      (nestedDeclarations rendering form subject.element).lines := by
    rw [nestedDeclarations, lines_concat, List.flatMap_def]
    apply List.infix_of_mem_flatten
    apply List.mem_map_of_mem
    refine List.mem_map.mpr ⟨child, (Model.mem_owned place).mp nests.listed, ?_⟩
    rw [nests.nested]
  exact deeper_infix_declarationIn nests.holds followed

end Blueprint.Php
