/-
Module: Blueprint.Proofs.Model.Ancestry
Purpose: The elements above an element, the nearest first: its parent, the parent of that, and so on. In a tree
  these are all the elements that it is below, each once. The path of packages is read off them from below: it
  takes the packages next to the element and ends at the first element of another kind, whatever stands above
  that one.
Main exports: Model.ancestors, Model.isInnerPackage, Model.packagesAbove, Model.IsTree.ancestors_eq_cons_iff,
  Model.IsTree.mem_ancestors_iff, Model.IsTree.pairwise_ancestors, Model.IsTree.packagePath_eq_takeWhile,
  Model.IsTree.packagePath_eq_packagesAbove_iff
-/
import Blueprint.Proofs.Model.Reach
import Blueprint.Proofs.Model.Walk
import Mathlib.Data.List.TakeWhile

namespace Blueprint.Model

variable {model : Model} {id parent other : ElementId} {depth more : Nat} {chain : List ElementId}

/-- The elements above an element, at most `depth` of them, the nearest first. -/
def ancestorsTo (model : Model) : (depth : Nat) → ElementId → List ElementId
  | 0, _ => []
  | depth + 1, id =>
    match model.parentOf? id with
    | some parent => parent :: model.ancestorsTo depth parent
    | none => []

/-- The elements above an element, the nearest first. No chain of parents is longer than the number of
    elements. -/
def ancestors (model : Model) (id : ElementId) : List ElementId :=
  model.ancestorsTo model.elements.size id

/-- The element exists and is a package; the model itself is none. -/
def isInnerPackage (model : Model) (id : ElementId) : Bool :=
  (model.element? id).any (·.content == .package)

/-- The names of all packages above an element, outermost first. -/
def packagesAbove (model : Model) (id : ElementId) : List String :=
  (((model.ancestors id).filter model.isInnerPackage).map model.nameOf).reverse

/-! ### Chains of parents -/

/-- Nothing is above what does not exist. -/
theorem ancestorsTo_unknown (unknown : model.element? id = none) (depth : Nat) :
    model.ancestorsTo depth id = [] := by
  have orphan : model.parentOf? id = none := by rw [parentOf?, unknown, Option.bind_none]
  cases depth with
  | zero => rfl
  | succ depth => rw [ancestorsTo, orphan]

section Tree

variable (tree : model.IsTree)

include tree

/-- The chain does not depend on the length that is allowed for it once that is more than the number of
    elements above. -/
theorem IsTree.ancestorsTo_stable (enough : (model.above id).card < depth)
    (enough' : (model.above id).card < more) : model.ancestorsTo depth id = model.ancestorsTo more id := by
  induction depth generalizing more id with
  | zero => exact absurd enough (Nat.not_lt_zero _)
  | succ depth ih =>
      obtain ⟨more, rfl⟩ := Nat.exists_eq_succ_of_ne_zero (Nat.ne_zero_of_lt enough')
      rw [ancestorsTo, ancestorsTo]
      cases named : model.parentOf? id with
      | none => rfl
      | some parent =>
          have upwards : model.ancestorsTo depth parent = model.ancestorsTo more parent := by
            cases found : model.element? parent with
            | none => rw [ancestorsTo_unknown found, ancestorsTo_unknown found]
            | some element =>
                have fewer := tree.card_above_lt_of_parentOf? named (Option.isSome_of_eq_some found)
                exact ih (by omega) (by omega)
          simp only [upwards]

/-- The parent comes first, and then what is above it. -/
theorem IsTree.ancestors_eq (id : ElementId) :
    model.ancestors id =
      match model.parentOf? id with
      | some parent => parent :: model.ancestors parent
      | none => [] := by
  cases named : model.parentOf? id with
  | none =>
      rw [ancestors]
      cases model.elements.size with
      | zero => rfl
      | succ size => rw [ancestorsTo, named]
  | some parent =>
      have known := isSome_of_parentOf? named
      obtain ⟨depth, size⟩ := exists_size_eq_succ known
      have all := tree.card_above_lt_size known
      have upwards : model.ancestorsTo depth parent = model.ancestors parent := by
        cases found : model.element? parent with
        | none => rw [ancestors, ancestorsTo_unknown found, ancestorsTo_unknown found]
        | some element =>
            have fewer := tree.card_above_lt_of_parentOf? named (Option.isSome_of_eq_some found)
            exact tree.ancestorsTo_stable (by omega) (by omega)
      rw [ancestors, size, ancestorsTo, named]
      simp only [upwards]

theorem IsTree.ancestors_eq_nil_iff : model.ancestors id = [] ↔ model.parentOf? id = none := by
  rw [tree.ancestors_eq]
  cases model.parentOf? id <;> simp

theorem IsTree.ancestors_eq_cons_iff :
    model.ancestors id = parent :: chain ↔ model.parentOf? id = some parent ∧ model.ancestors parent = chain := by
  rw [tree.ancestors_eq]
  cases model.parentOf? id with
  | none => simp
  | some first =>
      simp only [List.cons.injEq, Option.some.injEq]
      exact and_congr_right fun same => by rw [same]

/-- The chain holds all elements above. -/
theorem IsTree.mem_ancestors_iff : other ∈ model.ancestors id ↔ model.IsBelow id other := by
  generalize above : model.ancestors id = chain
  induction chain generalizing id with
  | nil =>
      rw [isBelow_iff, tree.ancestors_eq_nil_iff.mp above]
      simp
  | cons parent chain ih =>
      obtain ⟨named, upwards⟩ := tree.ancestors_eq_cons_iff.mp above
      have step : model.IsBelow id other ↔ parent = other ∨ model.IsBelow parent other := by
        rw [isBelow_iff, named]
        simp
      rw [List.mem_cons, ih upwards, step, eq_comm]

/-- The chain goes on from an element in it with what is above that element. -/
theorem IsTree.exists_ancestors_eq (above : model.IsBelow id other) :
    ∃ nearer, model.ancestors id = nearer ++ other :: model.ancestors other := by
  induction above using Relation.TransGen.head_induction_on with
  | single named => exact ⟨[], tree.ancestors_eq_cons_iff.mpr ⟨named, rfl⟩⟩
  | @head low parent named _ ih =>
      obtain ⟨nearer, upwards⟩ := ih
      exact ⟨parent :: nearer, tree.ancestors_eq_cons_iff.mpr ⟨named, upwards⟩⟩

/-- The chain leads upwards. -/
theorem IsTree.pairwise_ancestors (id : ElementId) : (model.ancestors id).Pairwise model.IsBelow := by
  generalize above : model.ancestors id = chain
  induction chain generalizing id with
  | nil => exact .nil
  | cons parent chain ih =>
      obtain ⟨-, upwards⟩ := tree.ancestors_eq_cons_iff.mp above
      refine .cons ?_ (ih parent upwards)
      intro higher member
      rw [← upwards] at member
      exact tree.mem_ancestors_iff.mp member

/-! ### Packages -/

/-- The packages around an element are those around its parent, and the parent itself; but if the parent is no
    package, there are none. -/
theorem IsTree.packagePath_step (id : ElementId) :
    model.packagePath id =
      match model.parentOf? id with
      | some parent =>
        if model.isInnerPackage parent then model.packagePath parent ++ [model.nameOf parent] else []
      | none => [] := by
  rw [tree.packagePath_eq (Nat.le_succ model.nextId)]
  cases model.parentOf? id with
  | none => rfl
  | some parent =>
      dsimp only
      rw [packageNames_succ, isInnerPackage, nameOf, tree.packagePath_eq (Nat.le_refl model.nextId), parentOf?,
        profile?]
      cases model.element? parent with
      | none => rfl
      | some element => simp

/-- The packages around an element are those right above it, up to the first element of another kind. -/
theorem IsTree.packagePath_eq_takeWhile (id : ElementId) :
    model.packagePath id = (((model.ancestors id).takeWhile model.isInnerPackage).map model.nameOf).reverse := by
  generalize above : model.ancestors id = chain
  induction chain generalizing id with
  | nil =>
      rw [tree.packagePath_step, tree.ancestors_eq_nil_iff.mp above]
      rfl
  | cons parent chain ih =>
      obtain ⟨named, upwards⟩ := tree.ancestors_eq_cons_iff.mp above
      rw [tree.packagePath_step, named, List.takeWhile_cons]
      dsimp only
      split
      · rw [ih parent upwards, List.map_cons, List.reverse_cons]
      · rfl

end Tree

/-- What is taken up to the first gap is all there is exactly when there is nothing behind a gap. -/
theorem takeWhile_eq_filter_iff {α : Type} {chosen : α → Bool} {items : List α} :
    items.takeWhile chosen = items.filter chosen ↔
      items.Pairwise fun first later => chosen later = true → chosen first = true := by
  induction items with
  | nil => simp
  | cons item items ih =>
      rw [List.takeWhile_cons, List.filter_cons, List.pairwise_cons]
      cases here : chosen item with
      | true => simpa [here] using ih
      | false =>
          simp only [Bool.false_eq_true, if_false, imp_false, eq_comm (a := []), List.filter_eq_nil_iff]
          refine ⟨fun none => ⟨none, ?_⟩, And.left⟩
          exact List.pairwise_of_forall_mem_list fun _ _ later member taken => absurd taken (none later member)

/-- As many items are taken up to the first gap as there are only if all are taken. -/
theorem takeWhile_eq_filter_of_length {α : Type} {chosen : α → Bool} {items : List α}
    (same : (items.takeWhile chosen).length = (items.filter chosen).length) :
    items.takeWhile chosen = items.filter chosen := by
  have taken : (items.takeWhile chosen).filter chosen = items.takeWhile chosen :=
    List.filter_eq_self.mpr fun _ member => List.mem_takeWhile_imp member
  have part := (List.takeWhile_sublist chosen (l := items)).filter chosen
  rw [taken] at part
  exact part.eq_of_length same

/-- The path of packages has the names of all packages above an element exactly when nothing but a package is
    below a package there. -/
theorem IsTree.packagePath_eq_packagesAbove_iff (tree : model.IsTree) (id : ElementId) :
    model.packagePath id = model.packagesAbove id ↔
      ∀ low high, model.IsBelow id low → model.IsBelow low high → model.isInnerPackage high = true →
        model.isInnerPackage low = true := by
  have whole : model.packagePath id = model.packagesAbove id ↔
      (model.ancestors id).takeWhile model.isInnerPackage = (model.ancestors id).filter model.isInnerPackage := by
    rw [tree.packagePath_eq_takeWhile, packagesAbove]
    constructor
    · intro same
      apply takeWhile_eq_filter_of_length
      simpa using congrArg List.length same
    · intro same
      rw [same]
  rw [whole, takeWhile_eq_filter_iff]
  have upwards := tree.pairwise_ancestors id
  constructor
  · intro closed low high above higher isPackage
    obtain ⟨nearer, chain⟩ := tree.exists_ancestors_eq above
    rw [chain, List.pairwise_append, List.pairwise_cons] at closed
    obtain ⟨-, ⟨behind, -⟩, -⟩ := closed
    exact behind high (tree.mem_ancestors_iff.mpr higher) isPackage
  · intro closed
    apply upwards.imp_of_mem
    intro low high member _ higher isPackage
    exact closed low high (tree.mem_ancestors_iff.mp member) higher isPackage

end Blueprint.Model
