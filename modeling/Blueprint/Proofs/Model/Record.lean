/-
Module: Blueprint.Proofs.Model.Record
Purpose: Containment as a model records it. It is written down twice, by an element that names its parent
  and by a parent that lists what it owns, and adding an element writes both. The two records agree in
  every model that is put together by adding elements below elements that exist; there a use case is the
  only parent that lists nothing, and the owned elements are reached from the model in one way only.
Main exports: Model.isUseCase, Model.placement?, Model.IsRecorded, Model.IsRecorded.add,
  Model.IsRecorded.of_placement, Model.Constructed, Model.isRecorded_of_constructed, Model.OwnedPath,
  Model.IsRecorded.existsUnique_ownedPath, Model.IsRecorded.isTree
-/
import Blueprint.Proofs.Model.Containment

namespace Blueprint

/-! ### Placements -/

/-- What an element says about its place: its identity, its parent and what it owns or could own. -/
structure Placement where
  id : ElementId
  parent? : Option ElementId
  owned : List ElementId
  canOwn : Bool

/-- The placement with one more owned element, if there may be any. -/
def Placement.own (placement : Placement) (child : ElementId) : Placement :=
  if placement.canOwn then { placement with owned := placement.owned ++ [child] } else placement

@[simp]
theorem Placement.parent?_own (placement : Placement) (child : ElementId) :
    (placement.own child).parent? = placement.parent? := by
  unfold Placement.own
  split <;> rfl

@[simp]
theorem Placement.canOwn_own (placement : Placement) (child : ElementId) :
    (placement.own child).canOwn = placement.canOwn := by
  unfold Placement.own
  split <;> rfl

/-- The place of an element. -/
def Element.placement (element : Element) : Placement :=
  ⟨element.id, element.parent?, element.owned, element.content.canOwn⟩

theorem placement_own (owner : Element) (child : ElementId) :
    (owner.own child).placement = owner.placement.own child := by
  unfold Element.own Placement.own
  cases canOwn : owner.content.canOwn <;> simp [Element.placement, canOwn]

namespace Model

variable {model : Model} {id owner child parent : ElementId}

/-- The element exists and is a use case, the one kind of element that cannot own others. -/
def isUseCase (model : Model) (id : ElementId) : Bool :=
  (model.element? id).any fun element => !element.content.canOwn

theorem isUseCase_iff : model.isUseCase id ↔
    ∃ element stereotype?, model.element? id = some element ∧ element.content = .useCase stereotype? := by
  rw [isUseCase, Option.any_eq_true]
  constructor
  · rintro ⟨element, found, cannot⟩
    cases content : element.content with
    | useCase stereotype? => exact ⟨element, stereotype?, found, content⟩
    | _ => simp [content, Content.canOwn] at cannot
  · rintro ⟨element, stereotype?, found, content⟩
    exact ⟨element, found, by rw [content]; rfl⟩

/-- The place of the element with the given identity. -/
def placement? (model : Model) (id : ElementId) : Option Placement :=
  (model.element? id).map Element.placement

theorem parentOf?_eq (model : Model) (id : ElementId) :
    model.parentOf? id = (model.placement? id).bind Placement.parent? := by
  rw [parentOf?, placement?]
  cases model.element? id <;> rfl

theorem owned_eq (model : Model) (id : ElementId) :
    model.owned id = ((model.placement? id).map Placement.owned).getD [] := by
  rw [Model.owned, placement?]
  cases model.element? id <;> rfl

theorem isUseCase_eq (model : Model) (id : ElementId) :
    model.isUseCase id = (model.placement? id).any fun placement => !placement.canOwn := by
  rw [isUseCase, placement?]
  cases model.element? id <;> rfl

theorem placement?_eq_none (unknown : model.nextId ≤ id) : model.placement? id = none := by
  have absent : model.element? id = none := by simpa [element?, nextId] using unknown
  rw [placement?, absent, Option.map_none]

theorem lt_of_parentOf? (named : model.parentOf? child = some parent) : child < model.nextId :=
  element?_isSome_iff.mp (isSome_of_parentOf? named)

/-! ### Operations on placements -/

/-- A change of an element that leaves its place as it is leaves every place as it is. -/
theorem placement?_modify {change : Element → Element}
    (keeps : ∀ element, (change element).placement = element.placement) (id other : ElementId) :
    (model.modify id change).placement? other = model.placement? other := by
  rw [placement?, placement?, element?_modify]
  split
  · rw [Option.map_map]
    exact Option.map_congr fun element _ => keeps element
  · rfl

/-- A new element names its parent and owns nothing, and its parent lists it if it can. -/
theorem placement?_add (known : parent < model.nextId) (name : String) (content : Content)
    (id : ElementId) :
    (model.add parent name content).placement? id =
      if id = model.nextId then some ⟨model.nextId, some parent, [], content.canOwn⟩
      else if parent = id then (model.placement? id).map (·.own model.nextId)
      else model.placement? id := by
  rcases Nat.lt_trichotomy id model.nextId with before | same | behind
  · rw [if_neg (Nat.ne_of_lt before), placement?, element?_add_of_lt name content before]
    split
    · rw [placement?, Option.map_map, Option.map_map]
      exact Option.map_congr fun owner _ => placement_own owner model.nextId
    · rfl
  · subst same
    rw [if_pos rfl, placement?, element?_add_new name content known]
    rfl
  · have unknown : parent ≠ id := Nat.ne_of_lt (Nat.lt_trans known behind)
    rw [if_neg (Nat.ne_of_gt behind), if_neg unknown, placement?_eq_none (Nat.le_of_lt behind)]
    apply placement?_eq_none
    rw [nextId_add]
    exact behind

section Add

variable (known : parent < model.nextId) (name : String) (content : Content)

include known

theorem parentOf?_add (id : ElementId) :
    (model.add parent name content).parentOf? id =
      if id = model.nextId then some parent else model.parentOf? id := by
  rw [parentOf?_eq, parentOf?_eq, placement?_add known]
  split
  · rfl
  · split
    · cases model.placement? id <;> simp
    · rfl

theorem isUseCase_add (id : ElementId) :
    (model.add parent name content).isUseCase id =
      if id = model.nextId then !content.canOwn else model.isUseCase id := by
  rw [isUseCase_eq, isUseCase_eq, placement?_add known]
  split
  · rfl
  · split
    · cases model.placement? id <;> simp
    · rfl

theorem owned_add (owner : ElementId) :
    (model.add parent name content).owned owner =
      if parent = owner ∧ model.isUseCase owner = false then model.owned owner ++ [model.nextId]
      else model.owned owner := by
  rw [owned_eq, owned_eq, isUseCase_eq, placement?_add known]
  split
  · rename_i new
    subst new
    have different : parent ≠ model.nextId := Nat.ne_of_lt known
    rw [if_neg fun both => different both.1, placement?_eq_none (Nat.le_refl _)]
    rfl
  · split
    · rename_i same
      subst same
      obtain ⟨element, found⟩ := Option.isSome_iff_exists.mp (element?_isSome_iff.mpr known)
      have place : model.placement? parent = some element.placement := by
        rw [placement?, found, Option.map_some]
      rw [place, Option.map_some, Option.map_some, Option.map_some, Option.any_some, Placement.own]
      cases element.placement.canOwn <;> simp
    · rename_i different
      rw [if_neg fun both => different both.1]

/-- An element of the larger model is the new one, or it keeps its identity and its parent. -/
theorem element_add {element : Element}
    (found : (model.add parent name content).element? id = some element) :
    (id = model.nextId ∧
      element = { id := model.nextId, name, parent? := some parent, content }) ∨
    ∃ before, model.element? id = some before ∧ element.id = before.id ∧
      element.parent? = before.parent? := by
  have within := element?_isSome_iff.mp (Option.isSome_of_eq_some found)
  rw [nextId_add] at within
  rcases Nat.lt_or_eq_of_le (Nat.le_of_lt_succ within) with older | rfl
  · right
    rw [element?_add_of_lt name content older] at found
    split at found
    · obtain ⟨before, found', rfl⟩ := Option.map_eq_some_iff.mp found
      refine ⟨before, found', ?_⟩
      unfold Element.own
      split <;> exact ⟨rfl, rfl⟩
    · exact ⟨element, found, rfl, rfl⟩
  · left
    rw [element?_add_new name content known] at found
    exact ⟨rfl, (Option.some.inj found).symm⟩

end Add

/-! ### Records that agree -/

/-- The two records of containment agree. Element `i` has the identity `i`; all but the model itself have a
    parent, which comes before them; an element is listed by its parent unless that is a use case, and by
    nothing else; and what is listed stands in the order of its creation. -/
structure IsRecorded (model : Model) : Prop where
  root_exists : (model.element? root).isSome
  identity : ∀ id element, model.element? id = some element → element.id = id
  parentless_iff : ∀ id element, model.element? id = some element →
    (element.parent? = none ↔ id = root)
  parent_lt : ∀ child parent, model.parentOf? child = some parent → parent < child
  owned_iff : ∀ owner child, child ∈ model.owned owner ↔
    model.parentOf? child = some owner ∧ model.isUseCase owner = false
  increasing : ∀ owner, (model.owned owner).Pairwise (· < ·)

/-- Models with the same places have the same records. -/
theorem IsRecorded.of_placement {other : Model} (recorded : model.IsRecorded)
    (same : ∀ id, other.placement? id = model.placement? id) : other.IsRecorded := by
  have parents : ∀ id, other.parentOf? id = model.parentOf? id := by
    intro id
    rw [parentOf?_eq, parentOf?_eq, same]
  have lists : ∀ id, other.owned id = model.owned id := by
    intro id
    rw [owned_eq, owned_eq, same]
  have useCases : ∀ id, other.isUseCase id = model.isUseCase id := by
    intro id
    rw [isUseCase_eq, isUseCase_eq, same]
  have places : ∀ id element, other.element? id = some element →
      ∃ before, model.element? id = some before ∧ before.placement = element.placement := by
    intro id element found
    have place := same id
    rw [placement?, found, Option.map_some] at place
    exact Option.map_eq_some_iff.mp place.symm
  constructor
  case root_exists =>
    have place := congrArg Option.isSome (same root)
    rw [placement?, placement?, Option.isSome_map, Option.isSome_map] at place
    rw [place]
    exact recorded.root_exists
  case identity =>
    intro id element found
    obtain ⟨before, found', place⟩ := places id element found
    exact (congrArg Placement.id place).symm.trans (recorded.identity id before found')
  case parentless_iff =>
    intro id element found
    obtain ⟨before, found', place⟩ := places id element found
    have parent : before.parent? = element.parent? := congrArg Placement.parent? place
    rw [← parent]
    exact recorded.parentless_iff id before found'
  case parent_lt =>
    intro child parent named
    rw [parents] at named
    exact recorded.parent_lt child parent named
  case owned_iff =>
    intro owner child
    rw [lists, parents, useCases]
    exact recorded.owned_iff owner child
  case increasing =>
    intro owner
    rw [lists]
    exact recorded.increasing owner

/-- A model that holds nothing but itself. -/
theorem isRecorded_named (name : String) (author? : Option String) :
    (named name author?).IsRecorded := by
  have only : ∀ id element, (named name author?).element? id = some element →
      id = root ∧ element.id = root ∧ element.parent? = none ∧ element.owned = [] := by
    intro id element found
    cases id with
    | zero =>
        cases found
        exact ⟨rfl, rfl, rfl, rfl⟩
    | succ id => cases found
  have orphan : ∀ id, (named name author?).parentOf? id = none := by
    intro id
    cases id <;> rfl
  have nothing : ∀ id, (named name author?).owned id = [] := by
    intro id
    cases id <;> rfl
  constructor
  case root_exists => rfl
  case identity =>
    intro id element found
    obtain ⟨atRoot, identity, -, -⟩ := only id element found
    exact identity.trans atRoot.symm
  case parentless_iff =>
    intro id element found
    obtain ⟨atRoot, -, none, -⟩ := only id element found
    exact iff_of_true none atRoot
  case parent_lt =>
    intro child parent named
    rw [orphan] at named
    cases named
  case owned_iff =>
    intro owner child
    rw [nothing, orphan]
    simp
  case increasing =>
    intro owner
    rw [nothing]
    exact .nil

namespace IsRecorded

variable (recorded : model.IsRecorded)

include recorded

/-- What is listed exists. -/
theorem lt_of_owned (listed : child ∈ model.owned owner) : child < model.nextId :=
  lt_of_parentOf? ((recorded.owned_iff owner child).mp listed).1

/-- After an element has been added, an element is listed by its parent unless that is a use case, and by
    nothing else. -/
theorem mem_owned_add_iff (known : parent < model.nextId) (name : String) (content : Content) :
    child ∈ (model.add parent name content).owned owner ↔
      (model.add parent name content).parentOf? child = some owner ∧
        (model.add parent name content).isUseCase owner = false := by
  rw [owned_add known, parentOf?_add known, isUseCase_add known]
  by_cases new : child = model.nextId
  · subst new
    have unlisted : model.nextId ∉ model.owned owner := fun listed =>
      Nat.lt_irrefl _ (recorded.lt_of_owned listed)
    rw [if_pos rfl]
    by_cases same : parent = owner
    · subst same
      rw [if_neg (Nat.ne_of_lt known)]
      by_cases useCase : model.isUseCase parent = false <;> simp [useCase, unlisted]
    · simp [same, unlisted]
  · have older : model.parentOf? child = some owner → owner ≠ model.nextId := fun named =>
      Nat.ne_of_lt (Nat.lt_trans (recorded.parent_lt child owner named) (lt_of_parentOf? named))
    have list : (child ∈ if parent = owner ∧ model.isUseCase owner = false
          then model.owned owner ++ [model.nextId] else model.owned owner) ↔
        child ∈ model.owned owner := by
      split <;> simp [new]
    rw [if_neg new, list, recorded.owned_iff]
    apply and_congr_right
    intro named
    rw [if_neg (older named)]

/-- Adding an element below one that exists writes both records. -/
theorem add (known : parent < model.nextId) (name : String) (content : Content) :
    (model.add parent name content).IsRecorded := by
  constructor
  case root_exists =>
    rw [element?_isSome_iff, nextId_add]
    exact Nat.lt_succ_of_lt (element?_isSome_iff.mp recorded.root_exists)
  case identity =>
    intro id element found
    rcases element_add known name content found with ⟨rfl, rfl⟩ | ⟨before, found', identity, -⟩
    · rfl
    · exact identity.trans (recorded.identity id before found')
  case parentless_iff =>
    intro id element found
    rcases element_add known name content found with ⟨rfl, rfl⟩ | ⟨before, found', -, same⟩
    · have notRoot : model.nextId ≠ root := Nat.ne_of_gt (Nat.zero_lt_of_lt known)
      simp [notRoot]
    · rw [same]
      exact recorded.parentless_iff id before found'
  case parent_lt =>
    intro child named hasParent
    rw [parentOf?_add known] at hasParent
    split at hasParent
    · rename_i new
      cases hasParent
      rw [new]
      exact known
    · exact recorded.parent_lt child named hasParent
  case owned_iff =>
    intro owner child
    exact recorded.mem_owned_add_iff known name content
  case increasing =>
    intro owner
    rw [owned_add known]
    split
    · apply List.pairwise_append.mpr
      refine ⟨recorded.increasing owner, List.pairwise_singleton _ _, ?_⟩
      intro child listed last new
      rw [List.mem_singleton.mp new]
      exact recorded.lt_of_owned listed
    · exact recorded.increasing owner

/-- An owned element is listed exactly once. -/
theorem count_owned (listed : child ∈ model.owned owner) : (model.owned owner).count child = 1 := by
  apply List.count_eq_one_of_mem
  · exact (recorded.increasing owner).imp Nat.ne_of_lt
  · exact listed

/-- What is listed comes after its owner. -/
theorem owner_lt (listed : child ∈ model.owned owner) : owner < child :=
  recorded.parent_lt child owner ((recorded.owned_iff owner child).mp listed).1

/-- A depth that is enough for an owner is more than enough for what it lists. -/
theorem nextId_le_of_owned (listed : child ∈ model.owned owner) {depth : Nat}
    (enough : model.nextId ≤ owner + (depth + 1)) : model.nextId ≤ child + depth := by
  apply Nat.le_trans enough
  rw [Nat.add_comm depth 1, ← Nat.add_assoc]
  exact Nat.add_le_add_right (recorded.owner_lt listed) depth

/-- A chain of parents leads backwards. -/
theorem lt_of_isBelow {other : ElementId} (below : model.IsBelow id other) : other < id := by
  induction below with
  | single named => exact recorded.parent_lt _ _ named
  | tail _ named ih => exact Nat.lt_trans (recorded.parent_lt _ _ named) ih

end IsRecorded

/-! ### Models put together -/

/-- Models that are put together by operations: elements are added below elements that exist, with
    relationships and keys in between. -/
inductive Constructed : Model → Prop where
  | named (name : String) (author? : Option String) : Constructed (named name author?)
  | add {model : Model} {parent : ElementId} (before : Constructed model) (known : parent < model.nextId)
      (name : String) (content : Content) : Constructed (model.add parent name content)
  | relate {model : Model} (before : Constructed model) (relationship : Relationship) :
      Constructed (model.relate relationship)
  | register {model next : Model} {key : String} {id : ElementId} (before : Constructed model)
      (free : model.register? key id = some next) : Constructed next

theorem isRecorded_of_constructed (constructed : model.Constructed) : model.IsRecorded := by
  induction constructed with
  | named name author? => exact isRecorded_named name author?
  | add before known name content ih => exact ih.add known name content
  | relate before relationship ih =>
      apply ih.of_placement
      intro id
      rfl
  | register before free ih =>
      rw [register?] at free
      split at free
      · cases free
      · cases free
        apply ih.of_placement
        intro id
        rfl

/-! ### Paths of owned elements -/

/-- A path that leads from the model to an element along lists of owned elements. -/
inductive OwnedPath (model : Model) : (path : List ElementId) → (id : ElementId) → Prop where
  | root : OwnedPath model [root] root
  | step {path : List ElementId} {owner child : ElementId} (above : OwnedPath model path owner)
      (listed : child ∈ model.owned owner) : OwnedPath model (path ++ [child]) child

namespace IsRecorded

variable (recorded : model.IsRecorded)

include recorded

/-- Lists lead to an element in one way at most: an element is listed by its parent only. -/
theorem ownedPath_unique {path : List ElementId} (leads : model.OwnedPath path id)
    {second : List ElementId} (leads' : model.OwnedPath second id) : second = path := by
  have unlisted : ∀ owner, root ∉ model.owned owner := fun owner listed =>
    Nat.not_lt_zero owner (recorded.owner_lt listed)
  induction leads generalizing second with
  | root =>
      cases leads' with
      | root => rfl
      | step above listed => exact absurd listed (unlisted _)
  | @step path owner child above listed ih =>
      cases leads' with
      | root => exact absurd listed (unlisted _)
      | @step path' owner' _ above' listed' =>
          have named := ((recorded.owned_iff owner child).mp listed).1
          have named' := ((recorded.owned_iff owner' child).mp listed').1
          cases named.symm.trans named'
          rw [ih above']

/-- An element that is below no use case is reached from the model along one path. -/
theorem existsUnique_ownedPath (known : id < model.nextId)
    (clear : ∀ ancestor, model.IsBelow id ancestor → model.isUseCase ancestor = false) :
    ∃! path, model.OwnedPath path id := by
  have reached : ∃ path, model.OwnedPath path id := by
    -- Parents come before their children, so a path to the parent is at hand.
    induction id using Nat.strongRecOn with
    | ind id ih =>
        obtain ⟨element, found⟩ := Option.isSome_iff_exists.mp (element?_isSome_iff.mpr known)
        cases parent : element.parent? with
        | none =>
            have atRoot := (recorded.parentless_iff id element found).mp parent
            subst atRoot
            exact ⟨_, .root⟩
        | some owner =>
            have named : model.parentOf? id = some owner := by
              rw [parentOf?, found, Option.bind_some, parent]
            have before := recorded.parent_lt id owner named
            have listed : id ∈ model.owned owner :=
              (recorded.owned_iff owner id).mpr ⟨named, clear owner (.single named)⟩
            have above := ih owner before (Nat.lt_trans before known) fun ancestor below =>
              clear ancestor (.head named below)
            obtain ⟨path, leads⟩ := above
            exact ⟨path ++ [id], .step leads listed⟩
  obtain ⟨path, leads⟩ := reached
  exact ⟨path, leads, fun second leads' => recorded.ownedPath_unique leads leads'⟩

/-- No chain of parents comes back to where it began. -/
theorem not_isBelow_self (id : ElementId) : ¬model.IsBelow id id := fun below =>
  Nat.lt_irrefl id (recorded.lt_of_isBelow below)

/-- Containment as it is recorded is a tree. -/
theorem isTree : model.IsTree where
  parent_of_owned owner child listed := ((recorded.owned_iff owner child).mp listed).1
  nodup_owned owner := (recorded.increasing owner).imp Nat.ne_of_lt
  not_below_self := recorded.not_isBelow_self

/-- No chain of owned elements comes back to where it began. -/
theorem not_owned_chain_self (id : ElementId) :
    ¬Relation.TransGen (fun owner child => child ∈ model.owned owner) id id := by
  have forward : ∀ {low high}, Relation.TransGen (fun owner child => child ∈ model.owned owner) low high →
      low < high := by
    intro low high chain
    induction chain with
    | single listed => exact recorded.owner_lt listed
    | tail _ listed ih => exact Nat.lt_trans ih (recorded.owner_lt listed)
  exact fun chain => Nat.lt_irrefl id (forward chain)

end IsRecorded

end Model

end Blueprint
