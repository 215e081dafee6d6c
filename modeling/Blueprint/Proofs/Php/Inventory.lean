/-
Module: Blueprint.Proofs.Php.Inventory
Purpose: What is declared in a text, one declaration after the other and one inside the other. An inventory lists
  declarations together with those that are nested in each, and the text of a declaration is put together
  from its own members and the declarations that the inventory lists inside it. The inventory of an element
  follows what it owns; in a tree it lists no element twice, and it lists whatever an element that it
  lists has nested in its declaration.
Main exports: Model.kind?, Inventory, Inventory.fragment, Inventory.declared, Takes, NestsDirectly, exists_takes,
  takenIn_eq_fragment, Takes.sublist_walk, Takes.declared_induction, Takes.mem_declared_of_nestsDirectly,
  exists_inventory
-/
import Blueprint.Proofs.Model.Walk
import Blueprint.Proofs.Php.Nesting

namespace Blueprint

/-- The kind of an element that is a classifier. -/
def Model.kind? (model : Model) (id : ElementId) : Option ClassifierKind :=
  (model.element? id).bind (·.content.kind?)

theorem Model.kind?_eq_some_iff {model : Model} {id : ElementId} {kind : ClassifierKind} :
    model.kind? id = some kind ↔
      ∃ element classifier, model.element? id = some element ∧ element.content = .classifier kind classifier := by
  rw [kind?, Option.bind_eq_some_iff]
  constructor
  · rintro ⟨element, found, known⟩
    obtain ⟨classifier, content⟩ := exists_classifier_of_kind? known
    exact ⟨element, classifier, found, content⟩
  · rintro ⟨element, classifier, found, content⟩
    exact ⟨element, found, by rw [content]; rfl⟩

theorem Model.exists_content_of_kind? {model : Model} {id : ElementId} {element : Element}
    (found : model.element? id = some element) (classifier : (model.kind? id).isSome) :
    ∃ kind data, element.content = .classifier kind data := by
  obtain ⟨kind, known⟩ := Option.isSome_iff_exists.mp classifier
  obtain ⟨other, data, found', content⟩ := Model.kind?_eq_some_iff.mp known
  obtain rfl := Option.some.inj (found.symm.trans found')
  exact ⟨kind, data, content⟩

namespace Php

variable {model : Model} {rendering : Rendering} {subject : Subject} {form inner : Form}
  {id owner child : ElementId} {ids rest : List ElementId} {around? : Option ElementId}

/-- Declarations one after the other: the form and the subject of the first one, the declarations inside it, and
    those after it. -/
inductive Inventory where
  | nil
  | entry (form : Form) (subject : Subject) (inside rest : Inventory)

namespace Inventory

/-- The text of the declarations, each followed by a blank line. -/
def fragment (rendering : Rendering) : Inventory → Fragment
  | nil => .empty
  | entry form subject inside rest =>
    spaced (declarationIn rendering subject (inside.fragment rendering) form) ++ rest.fragment rendering

/-- What is declared, in the order of the text, each element with the one in whose declaration it stands. The
    text of an enumeration holds no declarations. -/
def declared (around? : Option ElementId) : Inventory → List (Option ElementId × ElementId)
  | nil => []
  | entry form subject inside rest =>
    (around?, subject.id) ::
      ((if form = .enumForm then [] else inside.declared (some subject.id)) ++ rest.declared around?)

end Inventory

/-- The inventory of what a declaration in a form takes in from a list of elements. -/
inductive Takes (model : Model) : Form → List ElementId → Inventory → Prop where
  | nil {form : Form} : Takes model form [] .nil
  | entry {form inner : Form} {id : ElementId} {rest : List ElementId} {subject : Subject}
      {inside after : Inventory} (nested : (model.element? id).bind (Rendering.nestedForm? form) = some inner)
      (found : Subject.find? model id = some subject) (within : Takes model inner subject.element.owned inside)
      (later : Takes model form rest after) : Takes model form (id :: rest) (.entry inner subject inside after)
  | omitted {form : Form} {id : ElementId} {rest : List ElementId} {after : Inventory}
      (hidden : (model.element? id).bind (Rendering.nestedForm? form) = none)
      (later : Takes model form rest after) : Takes model form (id :: rest) after

/-- The declaration of the first element, in the form of its kind, has that of the second nested in it. -/
def NestsDirectly (model : Model) (owner child : ElementId) : Prop :=
  ∃ kind inner, model.kind? owner = some kind ∧ Nests model owner child (.ofKind kind) inner

/-! ### Nested forms -/

theorem ofKind_eq_interfaceForm {kind : ClassifierKind} :
    Form.ofKind kind = .interfaceForm ↔ kind = .interface := by
  cases kind <;> simp [Form.ofKind]

theorem ofKind_eq_enumForm {kind : ClassifierKind} : Form.ofKind kind = .enumForm ↔ kind = .enumeration := by
  cases kind <;> simp [Form.ofKind]

/-- A named classifier is nested in the form of its kind, unless it is an interface inside an interface. -/
theorem nestedForm?_eq_some_iff {element : Element} : Rendering.nestedForm? form element = some inner ↔
    element.name ≠ "" ∧ ∃ kind, element.content.kind? = some kind ∧ inner = .ofKind kind ∧
      ¬(form = .interfaceForm ∧ inner = .interfaceForm) := by
  have filled : element.name.isEmpty = true ↔ element.name = "" := by simp
  rw [Rendering.nestedForm?]
  by_cases named : element.name = ""
  · simp [named]
  · rw [if_neg (filled.not.mpr named), Option.filter_eq_some_iff, Option.map_eq_some_iff]
    constructor
    · rintro ⟨⟨kind, known, rfl⟩, apart⟩
      exact ⟨named, kind, known, rfl, by simpa [Decidable.imp_iff_not_or] using apart⟩
    · rintro ⟨-, kind, known, rfl, apart⟩
      exact ⟨⟨kind, known, rfl⟩, by simpa [Decidable.imp_iff_not_or] using apart⟩

/-- What has a form is a classifier. -/
theorem exists_subject_of_nestedForm?
    (nested : (model.element? id).bind (Rendering.nestedForm? form) = some inner) :
    ∃ subject kind, Subject.find? model id = some subject ∧ model.kind? id = some kind ∧
      inner = .ofKind kind := by
  obtain ⟨element, found, nested⟩ := Option.bind_eq_some_iff.mp nested
  obtain ⟨-, kind, known, same, -⟩ := nestedForm?_eq_some_iff.mp nested
  obtain ⟨classifier, content⟩ := Model.exists_classifier_of_kind? known
  have ofKind := Model.kind?_eq_some_iff.mpr ⟨element, classifier, found, content⟩
  refine ⟨⟨id, element, classifier⟩, kind, ?_, ofKind, same⟩
  simp [Subject.find?, found, content, Content.classifier?]

/-! ### Inventories of lists of elements -/

/-- In a tree there is an inventory of what is taken in from a list of elements. The descent ends because fewer
    and fewer elements are below those that are reached. -/
theorem exists_takes (tree : model.IsTree) (form : Form) (ids : List ElementId) :
    ∃ inventory, Takes model form ids inventory := by
  suffices bounded : ∀ bound form ids, (∀ id ∈ ids, (model.below id).card < bound) →
      ∃ inventory, Takes model form ids inventory by
    refine bounded (model.elements.size + 1) form ids fun id _ => Nat.lt_succ_of_le ?_
    have within : model.below id ⊆ Finset.range model.elements.size :=
      fun other member => Finset.mem_range.mpr (Model.mem_below.mp member).1
    exact (Finset.card_le_card within).trans (Finset.card_range _).le
  intro bound
  induction bound with
  | zero =>
      intro form ids below
      cases ids with
      | nil => exact ⟨.nil, .nil⟩
      | cons id rest => exact absurd (below id List.mem_cons_self) (Nat.not_lt_zero _)
  | succ bound descend =>
      intro form ids below
      induction ids with
      | nil => exact ⟨.nil, .nil⟩
      | cons id rest ih =>
          obtain ⟨after, later⟩ := ih fun id member => below id (List.mem_cons_of_mem _ member)
          have here := below id List.mem_cons_self
          cases nested : (model.element? id).bind (Rendering.nestedForm? form) with
          | none => exact ⟨after, .omitted nested later⟩
          | some inner =>
              obtain ⟨subject, kind, found, -⟩ := exists_subject_of_nestedForm? nested
              obtain ⟨-, place, -⟩ := eq_of_find? found
              obtain ⟨inside, within⟩ := descend inner subject.element.owned fun child listed => by
                have fewer := tree.card_below_lt_of_owned ((Model.mem_owned place).mpr listed)
                omega
              exact ⟨_, .entry nested found within later⟩

/-- The declarations of those elements of a list that are nested in a declaration of the form. -/
def takenIn (rendering : Rendering) (form : Form) (ids : List ElementId) : Fragment :=
  .concat (ids.map fun child =>
    match (rendering.model.element? child).bind (Rendering.nestedForm? form) with
    | some inner => spaced (rendering.declareAs inner child)
    | none => .empty)

theorem nestedDeclarations_eq_takenIn (rendering : Rendering) (form : Form) (element : Element) :
    nestedDeclarations rendering form element = takenIn rendering form element.owned := rfl

/-- The text of what is taken in is that of the inventory. -/
theorem takenIn_eq_fragment (tree : rendering.model.IsTree) {inventory : Inventory}
    (takes : Takes rendering.model form ids inventory) :
    takenIn rendering form ids = inventory.fragment rendering := by
  induction takes with
  | nil => rfl
  | @entry form inner id rest subject inside after nested found within later ihWithin ihLater =>
      rw [takenIn] at ihLater ⊢
      simp only [List.map_cons, Fragment.concat_cons, ihLater, nested]
      rw [declareAs_eq tree found, nestedDeclarations_eq_takenIn, ihWithin, Inventory.fragment]
  | @omitted form id rest after hidden later ih =>
      rw [takenIn] at ih ⊢
      simp only [List.map_cons, Fragment.concat_cons, ih, hidden]
      rfl

namespace Takes

variable {inventory : Inventory}

/-- An inventory lists elements in the order in which a walk meets them. -/
theorem sublist_walk (tree : model.IsTree) (takes : Takes model form ids inventory) (around? : Option ElementId) :
    ((inventory.declared around?).map Prod.snd).Sublist (ids.flatMap model.walk) := by
  induction takes generalizing around? with
  | nil => exact .slnil
  | @entry form inner id rest subject inside after nested found within later ihWithin ihLater =>
      obtain ⟨same, place, -⟩ := eq_of_find? found
      have owned : model.owned id = subject.element.owned := by
        rw [Model.owned, place, Option.map_some, Option.getD_some]
      rw [Inventory.declared, List.flatMap_cons, tree.walk_eq (Option.isSome_of_eq_some place), owned,
        List.map_cons, List.map_append, List.cons_append, same]
      refine List.Sublist.cons_cons id (List.Sublist.append ?_ (ihLater around?))
      split
      · exact List.nil_sublist _
      · exact ihWithin _
  | omitted hidden later ih => exact (ih around?).trans (List.sublist_append_right _ _)

/-- A property of what is taken in that passes on to what is nested in a declaration holds of all that is
    declared. -/
theorem declared_induction {property : ElementId → Prop}
    (passes : ∀ owner child, property owner → NestsDirectly model owner child → property child)
    (takes : Takes model form ids inventory)
    (begins : ∀ id ∈ ids, ∀ inner,
      (model.element? id).bind (Rendering.nestedForm? form) = some inner → property id) :
    ∀ place ∈ inventory.declared around?, property place.2 := by
  induction takes generalizing around? with
  | nil =>
      intro place member
      cases member
  | @entry form inner id rest subject inside after nested found within later ihWithin ihLater =>
      have here : property id := begins id List.mem_cons_self inner nested
      obtain ⟨same, owned, -⟩ := eq_of_find? found
      obtain ⟨-, kind, -, known, rfl⟩ := exists_subject_of_nestedForm? nested
      intro place member
      rcases List.mem_cons.mp member with rfl | member
      · rwa [same]
      · rcases List.mem_append.mp member with inside | behind
        · split at inside
          · cases inside
          · rename_i holds
            refine ihWithin (fun child listed innermost nested => ?_) place inside
            exact passes id child here ⟨kind, innermost, known, (Model.mem_owned owned).mpr listed, holds, nested⟩
        · exact ihLater (fun id member => begins id (List.mem_cons_of_mem _ member)) place behind
  | omitted hidden later ih => exact ih fun id member => begins id (List.mem_cons_of_mem _ member)

/-- What is taken in is declared. -/
theorem mem_declared (takes : Takes model form ids inventory) (listed : child ∈ ids)
    (nested : (model.element? child).bind (Rendering.nestedForm? form) = some inner) (around? : Option ElementId) :
    (around?, child) ∈ inventory.declared around? := by
  induction takes with
  | nil => cases listed
  | @entry form inner' id rest subject inside after nested' found within later ihWithin ihLater =>
      rcases List.mem_cons.mp listed with rfl | behind
      · rw [Inventory.declared, (eq_of_find? found).1]
        exact List.mem_cons_self
      · exact List.mem_cons_of_mem _ (List.mem_append_right _ (ihLater behind nested))
  | @omitted form id rest after hidden later ih =>
      rcases List.mem_cons.mp listed with rfl | behind
      · rw [hidden] at nested
        cases nested
      · exact ih behind nested

/-- What is nested in a declaration that is listed is listed, too. -/
theorem mem_declared_of_nestsDirectly (takes : Takes model form ids inventory)
    (member : owner ∈ (inventory.declared around?).map Prod.snd) (directly : NestsDirectly model owner child) :
    (some owner, child) ∈ inventory.declared around? := by
  induction takes generalizing around? with
  | nil => cases member
  | @entry form inner id rest subject inside after nested found within later ihWithin ihLater =>
      obtain ⟨same, place, -⟩ := eq_of_find? found
      rw [Inventory.declared, List.map_cons, List.map_append] at member
      apply List.mem_cons_of_mem
      apply List.mem_append.mpr
      rcases List.mem_cons.mp member with here | member
      · obtain ⟨kind, innermost, known, nests⟩ := directly
        obtain ⟨-, kind', -, known', rfl⟩ := exists_subject_of_nestedForm? nested
        rw [same] at here
        subst here
        obtain rfl := Option.some.inj (known.symm.trans known')
        rw [if_neg nests.holds, same]
        exact .inl (within.mem_declared ((Model.mem_owned place).mp nests.listed) nests.nested _)
      · rcases List.mem_append.mp member with inside | behind
        · split at inside
          · cases inside
          · rename_i holds
            rw [if_neg holds]
            exact .inl (ihWithin inside)
        · exact .inr (ihLater behind)
  | omitted hidden later ih => exact ih member

end Takes

/-! ### Inventories of units -/

/-- A named classifier has an inventory, and its declaration is put together from that. The inventory is what a
    class would take in: classes nest classifiers of every kind. -/
theorem exists_inventory (tree : rendering.model.IsTree) {element : Element}
    (found : rendering.model.element? id = some element) (named : element.name ≠ "")
    (classifier : (rendering.model.kind? id).isSome) :
    ∃ form subject inside, Takes rendering.model .classForm [id] (.entry form subject inside .nil) ∧
      rendering.declare id = declarationIn rendering subject (inside.fragment rendering) form := by
  obtain ⟨kind, known⟩ := Option.isSome_iff_exists.mp classifier
  have nested : (rendering.model.element? id).bind (Rendering.nestedForm? .classForm) = some (.ofKind kind) := by
    rw [Model.kind?, found, Option.bind_some] at known
    rw [found, Option.bind_some, nestedForm?_eq_some_iff]
    exact ⟨named, kind, known, rfl, by simp⟩
  obtain ⟨inventory, takes⟩ := exists_takes tree .classForm [id]
  cases takes with
  | omitted hidden later => rw [nested] at hidden; cases hidden
  | @entry _ inner _ _ subject inside after nested' found' within later =>
      cases later
      obtain rfl := Option.some.inj (nested.symm.trans nested')
      refine ⟨_, subject, inside, .entry nested found' within .nil, ?_⟩
      rw [Rendering.declare, ← Model.kind?, known]
      refine (declareAs_eq tree found' _).trans ?_
      rw [nestedDeclarations_eq_takenIn, takenIn_eq_fragment tree within]

end Php

end Blueprint
