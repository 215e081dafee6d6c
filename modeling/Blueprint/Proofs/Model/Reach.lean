/-
Module: Blueprint.Proofs.Model.Reach
Purpose: Where an element of a model leads. It mentions its parent, what it owns, the types of its members
  and the elements at the other side of its relationships; the elements that are reached from it by
  mention after mention are a region that no look-up leaves. Of most elements in it less is read than
  there is: what they own, and where their own relationships lead, matters for those only that are
  declared. Two models that agree on that much are alike, whatever else stands in either of them.
Main exports: Model.Mentions, Model.Reaches, Model.profile?, Model.relationshipsFrom, Model.AgreesFrom,
  Model.AgreesOn, Model.AgreesOn.agreesFrom, Model.IsTree.packagePath_eq, Model.AgreesFrom.packagePath,
  Model.IsRecorded.length_le_of_owned_chain, Model.IsRecorded.length_le_of_parent_chain
-/
import Blueprint.Proofs.Model.Record
import Mathlib.Data.List.Chain

namespace Blueprint

/-- The relationship leads away from the element: it is directed and the element is its source, or it is an
    association with the element at one of its ends. -/
def Relationship.leaves (id : ElementId) : Relationship → Bool
  | .association ends => ends.first.element == id || ends.second.element == id
  | directed => directed.source? == some id

end Blueprint

namespace Blueprint.Model

variable {model : Model} {id : ElementId}

/-! ### Mentions -/

/-- The first element mentions the second: an element of a model says of another one that it is its parent
    or among what it owns, the type of a member or the stereotype of a use case, or a relationship leads
    there from it. -/
inductive Mentions (model : Model) : ElementId → ElementId → Prop where
  | parent {child parent : ElementId} (named : model.parentOf? child = some parent) :
      Mentions model child parent
  | owned {owner child : ElementId} (listed : child ∈ model.owned owner) : Mentions model owner child
  | attributeType {owner target : ElementId} {classifier : Classifier} {member : Attribute}
      (found : model.classifier? owner = some classifier) (declared : member ∈ classifier.attributes)
      (typed : member.type = .element target) : Mentions model owner target
  | parameterType {owner target : ElementId} {classifier : Classifier} {operation : Operation}
      {parameter : Parameter} (found : model.classifier? owner = some classifier)
      (declared : operation ∈ classifier.operations) (taken : parameter ∈ operation.parameters)
      (typed : parameter.type = .element target) : Mentions model owner target
  | stereotype {useCase target : ElementId} {element : Element}
      (found : model.element? useCase = some element)
      (content : element.content = .useCase (some target)) : Mentions model useCase target
  | directed {source target : ElementId} {relationship : Relationship}
      (declared : relationship ∈ model.relationships) (leaves : relationship.source? = some source)
      (arrives : relationship.target? = some target) : Mentions model source target
  | association {id : ElementId} {ends : Association} {opposite : AssociationEnd}
      (declared : .association ends ∈ model.relationships) (across : ends.endFrom? id = some opposite) :
      Mentions model id opposite.element

/-- The first element leads to the second by mention after mention. -/
def Reaches (model : Model) : ElementId → ElementId → Prop :=
  Relation.ReflTransGen model.Mentions

/-! ### Parts of a model -/

/-- What an element says of itself, apart from what it owns. -/
def profile? (model : Model) (id : ElementId) : Option Element :=
  (model.element? id).map fun element => { element with owned := [] }

/-- What does not depend on the owned elements can be read off the profile. -/
theorem map_profile? {α : Type} {read : Element → α}
    (ignores : ∀ element, read { element with owned := [] } = read element) :
    (model.profile? id).map read = (model.element? id).map read := by
  cases found : model.element? id with
  | none => rw [profile?, found, Option.map_none]
  | some element => rw [profile?, found, Option.map_some, Option.map_some, Option.map_some, ignores]

theorem parentOf?_eq_profile? (model : Model) (id : ElementId) :
    model.parentOf? id = (model.profile? id).bind Element.parent? := by
  rw [profile?, Option.bind_map]
  rfl

/-- The relationships that lead away from an element, in order. -/
def relationshipsFrom (model : Model) (id : ElementId) : List Relationship :=
  model.relationships.filter (·.leaves id)

/-- What is silent about all other relationships is found among those that lead away from an element. -/
theorem filterMap_relationshipsFrom {α : Type} {find : Relationship → Option α}
    (silent : ∀ relationship, relationship.leaves id = false → find relationship = none) :
    (model.relationshipsFrom id).filterMap find = model.relationships.filterMap find := by
  rw [relationshipsFrom, List.filterMap_filter]
  apply List.filterMap_congr
  intro relationship _
  cases leads : relationship.leaves id with
  | true => rfl
  | false => exact (silent relationship leads).symm

/-! ### Agreement -/

/-- The second model agrees with the first from a core. The elements of the core are the same, and so are
    the relationships that lead away from them; what the core owns belongs to it. All that the core leads
    to lies in a region that is closed under mention; there the elements have the same profiles, but they
    may own others and relate to others. Outside the region the second model may differ in any way, and it
    may be larger. -/
structure AgreesFrom (core region : ElementId → Prop) (model other : Model) : Prop where
  tree : model.IsTree
  within : ∀ id, core id → region id
  nested : ∀ id child, core id → child ∈ model.owned id → core child
  closed : ∀ id target, region id → model.Mentions id target → region target
  author : other.author? = model.author?
  elements : ∀ id, core id → other.element? id = model.element? id
  profiles : ∀ id, region id → other.profile? id = model.profile? id
  relationships : ∀ id, core id → other.relationshipsFrom id = model.relationshipsFrom id
  grown : model.nextId ≤ other.nextId

/-- The second model agrees with the first on a region that is closed under mention, and on what holds for
    the model as a whole. Outside the region it may differ in any way, and it may be larger. -/
structure AgreesOn (region : ElementId → Prop) (model other : Model) : Prop where
  recorded : model.IsRecorded
  closed : ∀ id target, region id → model.Mentions id target → region target
  author : other.author? = model.author?
  relationships : other.relationships = model.relationships
  elements : ∀ id, region id → other.element? id = model.element? id
  grown : model.nextId ≤ other.nextId

/-- Where models agree on a whole region, every element of it may be in the core. -/
theorem AgreesOn.agreesFrom {region : ElementId → Prop} {other : Model}
    (agrees : AgreesOn region model other) : AgreesFrom region region model other where
  tree := agrees.recorded.isTree
  within _ inside := inside
  nested id child inside listed := agrees.closed id child inside (.owned listed)
  closed := agrees.closed
  author := agrees.author
  elements := agrees.elements
  profiles id inside := by rw [profile?, profile?, agrees.elements id inside]
  relationships id _ := by rw [relationshipsFrom, relationshipsFrom, agrees.relationships]
  grown := agrees.grown

/-! ### Packages -/

/-- One step upwards: a package is named, and anything else ends the path. -/
theorem packageNames_succ (model : Model) (depth : Nat) (id : ElementId) :
    model.packageNames (depth + 1) (some id) =
      match model.profile? id with
      | some element =>
        if element.content = .package then model.packageNames depth element.parent? ++ [element.name]
        else []
      | none => [] := by
  rw [packageNames, profile?]
  cases model.element? id with
  | none => rfl
  | some element =>
      obtain ⟨identity, name, documentation, parent?, owned, content⟩ := element
      cases content <;> simp

theorem packageNames_unknown (unknown : model.element? id = none) (depth : Nat) :
    model.packageNames depth (some id) = [] := by
  cases depth with
  | zero => rfl
  | succ depth => rw [packageNames_succ, profile?, unknown, Option.map_none]

/-- Fewer elements are above the parent that a profile names than above its element. -/
theorem IsTree.card_above_lt_of_profile? (tree : model.IsTree) {element : Element} {parent : ElementId}
    (found : model.profile? id = some element) (named : parent ∈ element.parent?)
    (known : (model.element? parent).isSome) : (model.above parent).card < (model.above id).card := by
  apply tree.card_above_lt_of_parentOf? _ known
  rw [parentOf?_eq_profile?, found]
  exact named

/-- A path upwards passes at most the elements above, so it does not depend on the depth that is allowed
    beyond their number. -/
theorem IsTree.packageNames_stable (tree : model.IsTree) {depth more : Nat} {from? : Option ElementId}
    (enough : ∀ id ∈ from?, (model.element? id).isSome → (model.above id).card < depth)
    (enough' : ∀ id ∈ from?, (model.element? id).isSome → (model.above id).card < more) :
    model.packageNames depth from? = model.packageNames more from? := by
  induction depth generalizing more from? with
  | zero =>
      cases from? with
      | none => cases more <;> rfl
      | some id =>
          have unknown : model.element? id = none := by
            simpa using fun known => Nat.not_lt_zero _ (enough id rfl known)
          rw [packageNames_unknown unknown, packageNames_unknown unknown]
  | succ depth ih =>
      cases from? with
      | none => cases more <;> rfl
      | some id =>
          cases found : model.profile? id with
          | none =>
              have unknown : model.element? id = none := by simpa [profile?] using found
              rw [packageNames_unknown unknown, packageNames_unknown unknown]
          | some element =>
              have known : (model.element? id).isSome := by
                simpa [profile?] using Option.isSome_of_eq_some found
              obtain ⟨more, rfl⟩ := Nat.exists_eq_succ_of_ne_zero (Nat.ne_zero_of_lt (enough' id rfl known))
              have upwards : model.packageNames depth element.parent? =
                  model.packageNames more element.parent? := by
                apply ih
                · intro parent named exist
                  have fewer := tree.card_above_lt_of_profile? found named exist
                  exact Nat.lt_of_lt_of_le fewer (Nat.le_of_lt_succ (enough id rfl known))
                · intro parent named exist
                  have fewer := tree.card_above_lt_of_profile? found named exist
                  exact Nat.lt_of_lt_of_le fewer (Nat.le_of_lt_succ (enough' id rfl known))
              rw [packageNames_succ, packageNames_succ, found]
              simp only [upwards]

/-- The packages around an element, to any depth that the number of elements allows. -/
theorem IsTree.packagePath_eq (tree : model.IsTree) {depth : Nat} (enough : model.nextId ≤ depth)
    (id : ElementId) : model.packagePath id = model.packageNames depth (model.parentOf? id) := by
  apply tree.packageNames_stable
  · intro parent _ known
    exact tree.card_above_lt_size known
  · intro parent _ known
    exact Nat.lt_of_lt_of_le (tree.card_above_lt_size known) enough

namespace AgreesFrom

variable {core region : ElementId → Prop} {other : Model} (agrees : AgreesFrom core region model other)

include agrees

/-- What is mentioned from the core lies inside the region. -/
theorem mentioned {target : ElementId} (inside : core id) (mentions : model.Mentions id target) :
    region target :=
  agrees.closed id target (agrees.within id inside) mentions

/-- What does not depend on the owned elements is the same inside the region. -/
theorem map_element? {α : Type} {read : Element → α}
    (ignores : ∀ element, read { element with owned := [] } = read element) (inside : region id) :
    (other.element? id).map read = (model.element? id).map read := by
  rw [← map_profile? ignores, ← map_profile? ignores, agrees.profiles id inside]

/-- What is silent about relationships that do not lead away from an element of the core is the same. -/
theorem filterMap_relationships {α : Type} {find : Relationship → Option α} (inside : core id)
    (silent : ∀ relationship, relationship.leaves id = false → find relationship = none) :
    other.relationships.filterMap find = model.relationships.filterMap find := by
  rw [← filterMap_relationshipsFrom silent, ← filterMap_relationshipsFrom silent,
    agrees.relationships id inside]

theorem parentOf? (inside : region id) : other.parentOf? id = model.parentOf? id := by
  rw [parentOf?_eq_profile?, parentOf?_eq_profile?, agrees.profiles id inside]

theorem nameOf (inside : region id) : other.nameOf id = model.nameOf id := by
  rw [Model.nameOf, Model.nameOf, agrees.map_element? (fun _ => rfl) inside]

theorem content (inside : region id) :
    (other.element? id).map Element.content = (model.element? id).map Element.content :=
  agrees.map_element? (fun _ => rfl) inside

theorem owned (inside : core id) : other.owned id = model.owned id := by
  rw [Model.owned, Model.owned, agrees.elements id inside]

theorem classifier? (inside : region id) : other.classifier? id = model.classifier? id := by
  have same := congrArg (Option.bind · Content.classifier?) (agrees.content inside)
  simpa only [Model.classifier?, Option.bind_map, Function.comp_def] using same

theorem isClass (inside : region id) : other.isClass id = model.isClass id := by
  have same := congrArg (Option.any Content.isClass) (agrees.content inside)
  simpa only [Model.isClass, Option.any_map] using same

theorem isInterface (inside : region id) : other.isInterface id = model.isInterface id := by
  have same := congrArg (Option.any Content.isInterface) (agrees.content inside)
  simpa only [Model.isInterface, Option.any_map] using same

/-- To the same depth, the path upwards from inside the region is the same. -/
theorem packageNames (depth : Nat) {from? : Option ElementId} (inside : ∀ id ∈ from?, region id) :
    other.packageNames depth from? = model.packageNames depth from? := by
  induction depth generalizing from? with
  | zero => rfl
  | succ depth ih =>
      cases from? with
      | none => rfl
      | some id =>
          rw [packageNames_succ, packageNames_succ, agrees.profiles id (inside id rfl)]
          cases found : model.profile? id with
          | none => rfl
          | some element =>
              have upwards : other.packageNames depth element.parent? =
                  model.packageNames depth element.parent? := by
                apply ih
                intro parent named
                apply agrees.closed id parent (inside id rfl)
                apply Mentions.parent
                rw [parentOf?_eq_profile?, found]
                exact named
              simp only [upwards]

/-- The packages around an element of the region are the same, though the other model may allow more of
    them. -/
theorem packagePath (inside : region id) : other.packagePath id = model.packagePath id := by
  have named : (other.element? id).bind Element.parent? = model.parentOf? id := agrees.parentOf? inside
  rw [agrees.tree.packagePath_eq agrees.grown, Model.packagePath, named]
  apply agrees.packageNames
  intro parent isParent
  exact agrees.closed id parent inside (.parent isParent)

end AgreesFrom

/-! ### The length of chains -/

/-- Distinct elements are no more than there are. -/
theorem length_le_of_nodup {chain : List ElementId} (distinct : chain.Nodup)
    (known : ∀ id ∈ chain, id < model.nextId) : chain.length ≤ model.nextId := by
  rw [← List.toFinset_card_of_nodup distinct, ← Finset.card_range model.nextId]
  apply Finset.card_le_card
  intro id member
  exact Finset.mem_range.mpr (known id (List.mem_toFinset.mp member))

/-- A chain of owned elements is no longer than there are elements. -/
theorem IsRecorded.length_le_of_owned_chain (recorded : model.IsRecorded) {chain : List ElementId}
    (known : ∀ id ∈ chain, id < model.nextId)
    (descends : chain.IsChain fun owner child => child ∈ model.owned owner) :
    chain.length ≤ model.nextId := by
  apply length_le_of_nodup _ known
  have forward : chain.IsChain (· < ·) := descends.imp fun _ _ listed => recorded.owner_lt listed
  exact forward.pairwise.imp Nat.ne_of_lt

/-- A chain of parents is no longer than there are elements. -/
theorem IsRecorded.length_le_of_parent_chain (recorded : model.IsRecorded) {chain : List ElementId}
    (known : ∀ id ∈ chain, id < model.nextId)
    (ascends : chain.IsChain fun child parent => model.parentOf? child = some parent) :
    chain.length ≤ model.nextId := by
  apply length_le_of_nodup _ known
  have backward : chain.IsChain (· > ·) := ascends.imp fun _ _ named => recorded.parent_lt _ _ named
  exact backward.pairwise.imp Nat.ne_of_gt

end Blueprint.Model
