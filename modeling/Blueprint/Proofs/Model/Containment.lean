/-
Module: Blueprint.Proofs.Model.Containment
Purpose: Containment as a tree. Every element that another one owns exists, names its owner as its parent,
  and is listed once; no chain of parents comes back to where it began. The elements below an element
  are then fewer than all elements, and fewer still below each element that it owns, so that a descent
  along owned elements is never deeper than the number of elements; and neither is a way up along parents.
Main exports: Model.parentOf?, Model.IsBelow, Model.IsTree, Model.below, Model.IsTree.card_below_lt_size,
  Model.IsTree.card_below_lt_of_owned, Model.above, Model.IsTree.card_above_lt_size,
  Model.IsTree.card_above_lt_of_parentOf?
-/
import Blueprint.Proofs.Model.Elements
import Mathlib.Data.Finset.Card
import Mathlib.Data.Finset.Range
import Mathlib.Logic.Relation

namespace Blueprint.Model

variable {model : Model} {id owner child : ElementId}

/-- The parent of an element. -/
def parentOf? (model : Model) (id : ElementId) : Option ElementId :=
  (model.element? id).bind Element.parent?

/-- The first element is below the second: a chain of parents leads from it there. -/
def IsBelow (model : Model) : ElementId → ElementId → Prop :=
  Relation.TransGen fun child parent => model.parentOf? child = some parent

/-- Containment is a tree: owned elements exist, each of them names its only owner as its parent and is
    listed by it once, and no element is below itself. -/
structure IsTree (model : Model) : Prop where
  parent_of_owned : ∀ owner child, child ∈ model.owned owner → model.parentOf? child = some owner
  nodup_owned : ∀ owner, (model.owned owner).Nodup
  not_below_self : ∀ id, ¬model.IsBelow id id

theorem isSome_of_parentOf? (parent : model.parentOf? child = some owner) :
    (model.element? child).isSome := by
  cases found : model.element? child with
  | none =>
      rw [parentOf?, found] at parent
      cases parent
  | some element => rfl

theorem mem_owned {element : Element} {owner child : ElementId} (found : model.element? owner = some element) :
    child ∈ model.owned owner ↔ child ∈ element.owned := by
  rw [Model.owned, found, Option.map_some, Option.getD_some]

theorem isSome_of_owned (owned : child ∈ model.owned owner) : (model.element? owner).isSome := by
  cases found : model.element? owner with
  | none => simp [Model.owned, found] at owned
  | some element => rfl

/-- Containment is a tree if every owned element names its owner, and every parent comes before its
    children. -/
theorem isTree_of_ordered
    (parents : ∀ owner < model.elements.size, ∀ child ∈ model.owned owner,
      model.parentOf? child = some owner)
    (nodup : ∀ owner < model.elements.size, (model.owned owner).Nodup)
    (ordered : ∀ child < model.elements.size, ∀ parent ∈ model.parentOf? child, parent < child) :
    model.IsTree where
  parent_of_owned owner child member :=
    parents owner (element?_isSome_iff.mp (isSome_of_owned member)) child member
  nodup_owned owner := by
    by_cases known : owner < model.elements.size
    · exact nodup owner known
    · have none : model.element? owner = none := by simpa [element?] using known
      simp [owned, none]
  not_below_self id := by
    have step : ∀ {child parent}, model.parentOf? child = some parent → parent < child := fun parent =>
      ordered _ (element?_isSome_iff.mp (isSome_of_parentOf? parent)) _ parent
    have before : ∀ {low high}, model.IsBelow low high → high < low := by
      intro low high below
      induction below with
      | single parent => exact step parent
      | tail _ parent ih => exact Nat.lt_trans (step parent) ih
    exact fun below => Nat.lt_irrefl id (before below)

/-- Owned elements of a tree exist. -/
theorem IsTree.isSome_of_owned (tree : model.IsTree) (owned : child ∈ model.owned owner) :
    (model.element? child).isSome :=
  isSome_of_parentOf? (tree.parent_of_owned owner child owned)

open Classical in
/-- The elements below an element. -/
noncomputable def below (model : Model) (id : ElementId) : Finset Nat :=
  (Finset.range model.elements.size).filter fun other => model.IsBelow other id

theorem mem_below {other : ElementId} :
    other ∈ model.below id ↔ other < model.elements.size ∧ model.IsBelow other id := by
  simp [below]

theorem IsTree.card_below_lt_size (tree : model.IsTree) (known : (model.element? id).isSome) :
    (model.below id).card < model.elements.size := by
  have proper : model.below id ⊂ Finset.range model.elements.size := by
    apply Finset.ssubset_iff_subset_ne.mpr
    constructor
    · intro other member
      exact Finset.mem_range.mpr (mem_below.mp member).1
    · intro same
      have inside : id ∈ model.below id := by
        rw [same]
        exact Finset.mem_range.mpr (element?_isSome_iff.mp known)
      exact tree.not_below_self id (mem_below.mp inside).2
  rw [← Finset.card_range model.elements.size]
  exact Finset.card_lt_card proper

/-- Fewer elements are below an owned element than below its owner: it is not below itself. -/
theorem IsTree.card_below_lt_of_owned (tree : model.IsTree) (owned : child ∈ model.owned owner) :
    (model.below child).card < (model.below owner).card := by
  have parent := tree.parent_of_owned owner child owned
  have proper : model.below child ⊂ model.below owner := by
    apply Finset.ssubset_iff_subset_ne.mpr
    constructor
    · intro other member
      obtain ⟨known, beneath⟩ := mem_below.mp member
      exact mem_below.mpr ⟨known, .tail beneath parent⟩
    · intro same
      have inside : child ∈ model.below child := by
        rw [same]
        exact mem_below.mpr ⟨element?_isSome_iff.mp (isSome_of_parentOf? parent), .single parent⟩
      exact tree.not_below_self child (mem_below.mp inside).2
  exact Finset.card_lt_card proper

open Classical in
/-- The elements above an element. -/
noncomputable def above (model : Model) (id : ElementId) : Finset Nat :=
  (Finset.range model.elements.size).filter fun other => model.IsBelow id other

theorem mem_above {other : ElementId} :
    other ∈ model.above id ↔ other < model.elements.size ∧ model.IsBelow id other := by
  simp [above]

theorem IsTree.card_above_lt_size (tree : model.IsTree) (known : (model.element? id).isSome) :
    (model.above id).card < model.elements.size := by
  have proper : model.above id ⊂ Finset.range model.elements.size := by
    apply Finset.ssubset_iff_subset_ne.mpr
    constructor
    · intro other member
      exact Finset.mem_range.mpr (mem_above.mp member).1
    · intro same
      have inside : id ∈ model.above id := by
        rw [same]
        exact Finset.mem_range.mpr (element?_isSome_iff.mp known)
      exact tree.not_below_self id (mem_above.mp inside).2
  rw [← Finset.card_range model.elements.size]
  exact Finset.card_lt_card proper

/-- Fewer elements are above a parent than above its children: it is not above itself. -/
theorem IsTree.card_above_lt_of_parentOf? (tree : model.IsTree)
    (named : model.parentOf? child = some owner) (known : (model.element? owner).isSome) :
    (model.above owner).card < (model.above child).card := by
  have proper : model.above owner ⊂ model.above child := by
    apply Finset.ssubset_iff_subset_ne.mpr
    constructor
    · intro other member
      obtain ⟨exist, beneath⟩ := mem_above.mp member
      exact mem_above.mpr ⟨exist, .head named beneath⟩
    · intro same
      have inside : owner ∈ model.above owner := by
        rw [same]
        exact mem_above.mpr ⟨element?_isSome_iff.mp known, .single named⟩
      exact tree.not_below_self owner (mem_above.mp inside).2
  exact Finset.card_lt_card proper

end Blueprint.Model
