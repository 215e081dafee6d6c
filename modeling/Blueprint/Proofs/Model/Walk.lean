/-
Module: Blueprint.Proofs.Model.Walk
Purpose: The elements at and below an element in the order in which they are met on a walk along the lists of
  owned elements: an element comes before all that it owns, and what it owns comes in the order of its list,
  each element with all that is below it. In a tree the walk is never deeper than the number of elements, and
  it meets nothing twice, because chains of parents do not part.
Main exports: Model.walk, Model.isBelow_iff, Model.isBelow_total, Model.IsTree.walk_eq, Model.IsTree.nodup_walk
-/
import Blueprint.Proofs.Model.Containment
import Mathlib.Data.List.Nodup

namespace Blueprint.Model

variable {model : Model} {id owner child other : ElementId} {depth more : Nat}

/-- The elements met on the way down from an element, at most `depth` levels deep. -/
def walkTo (model : Model) : (depth : Nat) → ElementId → List ElementId
  | 0, _ => []
  | depth + 1, id => id :: (model.owned id).flatMap (model.walkTo depth)

/-- An element and all that is below it, in the order of the walk. No way down is longer than there are
    elements. -/
def walk (model : Model) (id : ElementId) : List ElementId :=
  model.walkTo model.elements.size id

/-! ### Chains of parents -/

/-- What is below an element has a parent that is the element or below it. -/
theorem isBelow_iff {low high : ElementId} : model.IsBelow low high ↔
    ∃ parent, model.parentOf? low = some parent ∧ (parent = high ∨ model.IsBelow parent high) := by
  rw [IsBelow, Relation.TransGen.head'_iff]
  constructor
  · rintro ⟨parent, named, above⟩
    exact ⟨parent, named, (Relation.reflTransGen_iff_eq_or_transGen.mp above).imp_left Eq.symm⟩
  · rintro ⟨parent, named, above⟩
    exact ⟨parent, named, Relation.reflTransGen_iff_eq_or_transGen.mpr (above.imp_left Eq.symm)⟩

/-- Chains of parents do not part: of two elements above a third one, one is above the other. -/
theorem isBelow_total {first second : ElementId} (above : other = first ∨ model.IsBelow other first)
    (above' : other = second ∨ model.IsBelow other second) :
    first = second ∨ model.IsBelow first second ∨ model.IsBelow second first := by
  have single : Relator.RightUnique fun child parent => model.parentOf? child = some parent :=
    fun _ _ _ named named' => Option.some.inj (named.symm.trans named')
  have chain : ∀ {high}, other = high ∨ model.IsBelow other high →
      Relation.ReflTransGen (fun child parent => model.parentOf? child = some parent) other high :=
    fun above => Relation.reflTransGen_iff_eq_or_transGen.mpr (above.imp_left Eq.symm)
  rcases Relation.ReflTransGen.total_of_right_unique single (chain above) (chain above') with leads | leads
  · rcases Relation.reflTransGen_iff_eq_or_transGen.mp leads with same | below
    · exact .inl same.symm
    · exact .inr (.inl below)
  · rcases Relation.reflTransGen_iff_eq_or_transGen.mp leads with same | below
    · exact .inl same
    · exact .inr (.inr below)

section Tree

variable (tree : model.IsTree)

include tree

/-- The walk does not depend on the depth that is allowed for it once that is more than the number of
    elements below. -/
theorem IsTree.walkTo_stable (enough : (model.below id).card < depth) (enough' : (model.below id).card < more) :
    model.walkTo depth id = model.walkTo more id := by
  induction depth generalizing more id with
  | zero => exact absurd enough (Nat.not_lt_zero _)
  | succ depth ih =>
      cases more with
      | zero => exact absurd enough' (Nat.not_lt_zero _)
      | succ more =>
          have below : (model.owned id).flatMap (model.walkTo depth) =
              (model.owned id).flatMap (model.walkTo more) := by
            apply List.flatMap_congr
            intro child listed
            have fewer := tree.card_below_lt_of_owned listed
            exact ih (by omega) (by omega)
          rw [walkTo, walkTo, below]

/-- The walk meets an element first and then what is met from each element that it owns. -/
theorem IsTree.walk_eq (known : (model.element? id).isSome) :
    model.walk id = id :: (model.owned id).flatMap model.walk := by
  obtain ⟨depth, size⟩ := exists_size_eq_succ known
  have all := tree.card_below_lt_size known
  have below : (model.owned id).flatMap (model.walkTo depth) = (model.owned id).flatMap model.walk := by
    apply List.flatMap_congr
    intro child listed
    have fewer := tree.card_below_lt_of_owned listed
    exact tree.walkTo_stable (by omega) (by omega)
  rw [walk, size, walkTo, below]

/-- What is met is the element itself or below it. -/
theorem IsTree.isBelow_of_mem_walkTo (met : other ∈ model.walkTo depth id) :
    other = id ∨ model.IsBelow other id := by
  induction depth generalizing id with
  | zero => cases met
  | succ depth ih =>
      rcases List.mem_cons.mp met with same | deeper
      · exact .inl same
      · obtain ⟨child, listed, met⟩ := List.mem_flatMap.mp deeper
        have parent := tree.parent_of_owned id child listed
        rcases ih met with rfl | below
        · exact .inr (.single parent)
        · exact .inr (.tail below parent)

/-- Different children of one element have nothing below them in common: one child would be below the other and
    the element below itself. -/
theorem IsTree.child_unique (first : model.parentOf? child = some owner)
    (second : model.parentOf? id = some owner) (met : other = child ∨ model.IsBelow other child)
    (met' : other = id ∨ model.IsBelow other id) : child = id := by
  have apart : ∀ {low high}, model.parentOf? low = some owner → model.parentOf? high = some owner →
      ¬model.IsBelow low high := by
    intro low high named named' below
    rcases isBelow_iff.mp below with ⟨parent, step, rfl | above⟩
    · obtain rfl := Option.some.inj (named.symm.trans step)
      exact tree.not_below_self _ (.single named')
    · obtain rfl := Option.some.inj (named.symm.trans step)
      exact tree.not_below_self owner (.tail above named')
  rcases isBelow_total met met' with same | below | below
  · exact same
  · exact absurd below (apart first second)
  · exact absurd below (apart second first)

theorem IsTree.nodup_walkTo (depth : Nat) (id : ElementId) : (model.walkTo depth id).Nodup := by
  induction depth generalizing id with
  | zero => exact List.nodup_nil
  | succ depth ih =>
      rw [walkTo, List.nodup_cons, List.nodup_flatMap]
      refine ⟨?_, fun child _ => ih child, ?_⟩
      · intro again
        obtain ⟨child, listed, met⟩ := List.mem_flatMap.mp again
        have parent := tree.parent_of_owned id child listed
        rcases tree.isBelow_of_mem_walkTo met with rfl | below
        · exact tree.not_below_self id (.single parent)
        · exact tree.not_below_self id (.tail below parent)
      · apply (tree.nodup_owned id).imp_of_mem
        intro child sibling listed listed' different other met met'
        exact different (tree.child_unique (tree.parent_of_owned id child listed)
          (tree.parent_of_owned id sibling listed') (tree.isBelow_of_mem_walkTo met)
          (tree.isBelow_of_mem_walkTo met'))

/-- The walk meets no element twice. -/
theorem IsTree.nodup_walk (id : ElementId) : (model.walk id).Nodup :=
  tree.nodup_walkTo _ id

end Tree

end Blueprint.Model
