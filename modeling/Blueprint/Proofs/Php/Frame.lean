/-
Module: Blueprint.Proofs.Php.Frame
Purpose: What leaves a unit as it is. A unit is written from its element and the elements nested in that
  one, from the relationships that lead away from these, and from the names of what is mentioned. So a
  model may grow elsewhere: a relationship that only arrives at the element, or a new element that is not
  nested in it, changes neither its unit nor the name of its file, however many of them are added.
Main exports: Model.Encloses, Model.GrowsOutside, Model.AgreesFrom.grow, Model.IsTree.agreesFrom_grown,
  unit_unchanged_by_growth_outside
-/
import Blueprint.Proofs.Document.Closure
import Blueprint.Proofs.Php.Rendering

namespace Blueprint.Model

variable {model before after other : Model} {id inner : ElementId} {core region : ElementId → Prop}

/-! ### Nests -/

/-- The first element encloses the second: it is the second, or a chain of owned elements leads there. -/
def Encloses (model : Model) : ElementId → ElementId → Prop :=
  Relation.ReflTransGen fun owner child => child ∈ model.owned owner

/-- What an element of the model encloses belongs to the model, too. -/
theorem IsTree.lt_of_encloses (tree : model.IsTree) (known : id < model.nextId)
    (encloses : model.Encloses id inner) : inner < model.nextId := by
  cases encloses with
  | refl => exact known
  | tail _ listed => exact element?_isSome_iff.mp (isSome_of_parentOf? (tree.parent_of_owned _ _ listed))

/-! ### Growth -/

/-- One addition to a model that stays outside a nest of elements: a directed relationship whose source is
    not in the nest, an association with neither end in it, or a new element below a parent that is not in
    it. Where a relationship arrives makes no difference, and neither does what the new element becomes. -/
inductive GrowsOutside (nest : ElementId → Prop) : Model → Model → Prop where
  | directed {model : Model} {relationship : Relationship} {source : ElementId}
      (leaves : relationship.source? = some source) (outside : ¬nest source) :
      GrowsOutside nest model (model.relate relationship)
  | association {model : Model} {ends : Association} (first : ¬nest ends.first.element)
      (second : ¬nest ends.second.element) : GrowsOutside nest model (model.relate (.association ends))
  | element {model : Model} {parent : ElementId} (outside : ¬nest parent) (name : String) (content : Content)
      (become : Element → Element) :
      GrowsOutside nest model ((model.add parent name content).modify model.nextId become)

/-- A new element shows in no profile of the others. -/
theorem profile?_add_of_lt {parent : ElementId} (name : String) (content : Content)
    (known : id < model.nextId) : (model.add parent name content).profile? id = model.profile? id := by
  rw [profile?, profile?, element?_add_of_lt name content known]
  split
  · rw [Option.map_map]
    apply Option.map_congr
    intro element _
    rw [Function.comp_apply, Element.own]
    split <;> rfl
  · rfl

/-- A relationship that does not lead away from an element is not among those that do. -/
theorem relationshipsFrom_relate {relationship : Relationship} (elsewhere : relationship.leaves id = false) :
    (model.relate relationship).relationshipsFrom id = model.relationshipsFrom id := by
  rw [relationshipsFrom, relationshipsFrom, relate, List.filter_append, List.filter_singleton, elsewhere]
  exact List.append_nil _

/-- A relationship that leads away from no element of the core keeps the agreement. -/
theorem AgreesFrom.relate (agrees : AgreesFrom core region model before) {relationship : Relationship}
    (elsewhere : ∀ id, core id → relationship.leaves id = false) :
    AgreesFrom core region model (before.relate relationship) :=
  { agrees with
    relationships := fun id inside =>
      (relationshipsFrom_relate (elsewhere id inside)).trans (agrees.relationships id inside) }

/-- A new element below a parent outside the core keeps the agreement, as long as the region holds elements
    of the model only. -/
theorem AgreesFrom.extend (agrees : AgreesFrom core region model before)
    (known : ∀ id, region id → id < model.nextId) {parent : ElementId} (outside : ¬core parent)
    (name : String) (content : Content) (become : Element → Element) :
    AgreesFrom core region model ((before.add parent name content).modify before.nextId become) := by
  have earlier : ∀ id, region id → id < before.nextId := fun id inside =>
    Nat.lt_of_lt_of_le (known id inside) agrees.grown
  have kept : ∀ id, region id →
      ((before.add parent name content).modify before.nextId become).element? id =
        (before.add parent name content).element? id := by
    intro id inside
    rw [element?_modify, if_neg (Nat.ne_of_gt (earlier id inside))]
  exact
    { agrees with
      elements := by
        intro id inside
        have within := agrees.within id inside
        have other : parent ≠ id := fun same => outside (same ▸ inside)
        rw [kept id within, element?_add_of_lt name content (earlier id within), if_neg other,
          agrees.elements id inside]
      profiles := by
        intro id inside
        rw [profile?, kept id inside]
        exact (profile?_add_of_lt name content (earlier id inside)).trans (agrees.profiles id inside)
      grown := by
        rw [nextId_modify, nextId_add]
        exact Nat.le_succ_of_le agrees.grown }

/-- An addition outside the core keeps the agreement from the core. -/
theorem AgreesFrom.grow (agrees : AgreesFrom core region model before)
    (known : ∀ id, region id → id < model.nextId) (grows : GrowsOutside core before after) :
    AgreesFrom core region model after := by
  cases grows with
  | @directed relationship source leaves outside =>
      apply agrees.relate
      intro id inside
      have other : source ≠ id := fun same => outside (same ▸ inside)
      cases relationship <;> cases leaves <;> simpa [Relationship.leaves, Relationship.source?] using other
  | @association ends first second =>
      apply agrees.relate
      intro id inside
      have other : ends.first.element ≠ id := fun same => first (same ▸ inside)
      have other' : ends.second.element ≠ id := fun same => second (same ▸ inside)
      simp [Relationship.leaves, other, other']
  | element outside name content become => exact agrees.extend known outside name content become

/-- Every model agrees with itself from the nest of an element, in the region of all its elements. -/
theorem IsTree.agreesFrom_self (tree : model.IsTree)
    (closed : ∀ source target, model.Mentions source target → target < model.nextId)
    (known : id < model.nextId) : AgreesFrom (model.Encloses id) (· < model.nextId) model model where
  tree := tree
  within _ encloses := tree.lt_of_encloses known encloses
  nested _ _ encloses listed := .tail encloses listed
  closed source target _ mentions := closed source target mentions
  author := rfl
  elements _ _ := rfl
  profiles _ _ := rfl
  relationships _ _ := rfl
  grown := Nat.le_refl _

/-- A model that has grown outside the nest of an element, in any number of steps, agrees from the nest. -/
theorem IsTree.agreesFrom_grown (tree : model.IsTree)
    (closed : ∀ source target, model.Mentions source target → target < model.nextId)
    (known : id < model.nextId)
    (grows : Relation.ReflTransGen (GrowsOutside (model.Encloses id)) model other) :
    AgreesFrom (model.Encloses id) (· < model.nextId) model other := by
  induction grows with
  | refl => exact tree.agreesFrom_self closed known
  | tail _ grows agrees => exact agrees.grow (fun _ inside => inside) grows

end Blueprint.Model

namespace Blueprint.Php

open Blueprint.Model (GrowsOutside)

/-- Rendering is local. Let containment in a model be a tree, and let all that its elements mention exist.
    Whatever is added outside an element and the elements nested in it, step after step - relationships
    that lead away from others, to wherever they lead, and elements below others - the unit of the element
    and the name of its file stay what they are, for all options. -/
theorem unit_unchanged_by_growth_outside {model other : Model} {id : ElementId} (tree : model.IsTree)
    (closed : ∀ source target, model.Mentions source target → target < model.nextId)
    (known : id < model.nextId)
    (grows : Relation.ReflTransGen (GrowsOutside (model.Encloses id)) model other) (options : Options) :
    unitOf? other options id = unitOf? model options id ∧
      fileName? other options id = fileName? model options id := by
  have agrees := tree.agreesFrom_grown closed known grows
  exact ⟨agrees.unitOf? options .refl, agrees.fileName? options .refl⟩

/-- Two classes of a package, of which the second specializes the first. -/
def hallText : String :=
  "<model><package name='art'><class id='r' name='Room'/><class id='h' name='Hall'/></package>" ++
    "<generalization source='h' target='r'/></model>"

/-- The halls are read; their class owns nothing and has a unit. -/
theorem hall_read : ∃ model, Document.readDocument (Document.Cursor.ofStream
      (Markup.Stream.ofText hallText)) = .ok model ∧ model.nextId = 4 ∧ model.owned 3 = [] ∧
      model.relationships = [.generalization 3 2] ∧ (unitOf? model {} 3).isSome = true ∧
      fileName? model {} 3 = some "Hall.php" := by
  have parts : (Document.readDocument (Document.Cursor.ofStream
        (Markup.Stream.ofText hallText))).toOption.map (fun model =>
          (model.nextId, model.owned 3, model.relationships, (unitOf? model {} 3).isSome,
            fileName? model {} 3)) =
      some (4, [], [.generalization 3 2], true, some "Hall.php") := by
    decide +kernel
  obtain ⟨model, read, parts⟩ := Option.map_eq_some_iff.mp parts
  simp only [Prod.mk.injEq] at parts
  exact ⟨model, Document.eq_ok_of_toOption read, parts⟩

/-- A lobby is added to the package, as a hall; and the rooms come to realize it. One relationship arrives
    at the class of halls, the other leaves its superclass, and there are more that touch the class than
    before; its unit is the same. -/
theorem unit_of_hall_unchanged : ∃ model other, Document.readDocument (Document.Cursor.ofStream
      (Markup.Stream.ofText hallText)) = .ok model ∧
      other = (((model.add 1 "Lobby" (.classifier .classType {})).modify model.nextId id).relate
        (.generalization 4 3)).relate (.realization 2 4) ∧
      model.relationshipsOf 3 = [.generalization 3 2] ∧
      other.relationshipsOf 3 = [.generalization 3 2, .generalization 4 3] ∧
      (unitOf? model {} 3).isSome = true ∧ unitOf? other {} 3 = unitOf? model {} 3 ∧
      fileName? other {} 3 = some "Hall.php" := by
  obtain ⟨model, read, size, owns, relationships, unit, file⟩ := hall_read
  have nest : ∀ inner, model.Encloses 3 inner → inner = 3 := by
    intro inner encloses
    cases Relation.ReflTransGen.cases_head encloses with
    | inl same => exact same.symm
    | inr descends =>
        obtain ⟨child, listed, _⟩ := descends
        rw [owns] at listed
        cases listed
  have added : GrowsOutside (model.Encloses 3) model
      ((model.add 1 "Lobby" (.classifier .classType {})).modify model.nextId id) :=
    .element (fun inside => absurd (nest 1 inside) (by decide)) _ _ _
  have arrives : ∀ before : Model,
      GrowsOutside (model.Encloses 3) before (before.relate (.generalization 4 3)) := fun _ =>
    .directed rfl fun inside => absurd (nest 4 inside) (by decide)
  have above : ∀ before : Model,
      GrowsOutside (model.Encloses 3) before (before.relate (.realization 2 4)) := fun _ =>
    .directed rfl fun inside => absurd (nest 2 inside) (by decide)
  obtain ⟨sameUnit, sameFile⟩ := unit_unchanged_by_growth_outside
    (Document.isRecorded_of_readDocument read).isTree (fun _ _ => Document.lt_of_mentions read)
    (show 3 < model.nextId by rw [size]; decide)
    (.tail (.tail (.single added) (arrives _)) (above _)) {}
  refine ⟨model, _, read, rfl, ?_, ?_, unit, sameUnit, sameFile.trans file⟩
  · rw [Model.relationshipsOf, relationships]
    decide
  · rw [Model.relationshipsOf]
    simp only [Model.relate, Model.modify, Model.add, relationships]
    decide

end Blueprint.Php
