/-
Module: Blueprint.Proofs.Php.Unnamed
Purpose: What unnamed members leave behind in a unit. None of their lines is written, wherever they stand and
  whatever else the class gets on their account; but the blank line after an unnamed operation is, and what
  the types of unnamed members need imported is imported. So without them a unit has the same lines that are
  not blank, in order, and at most those imports less.
Main exports: Thinned, Fragment.Fades, unnamedMentions, classMethods_withoutUnnamed, declareNested_fades,
  LosesUnnamed, unnamed_members_leave_no_lines
-/
import Blueprint.Proofs.Model.Unnamed
import Blueprint.Proofs.Php.Classifiers
import Blueprint.Proofs.Php.Rendering

namespace Blueprint.Php

/-! ### Thinned lists -/

/-- The second list of paths is the first one less some that may be lost; it is the same if there are none of
    these. -/
structure Thinned (lost : String → Prop) (full bare : List String) : Prop where
  subset : bare ⊆ full
  remains : ∀ path ∈ full, path ∈ bare ∨ lost path
  same : (∀ path ∈ full, ¬lost path) → bare = full

/-- Items without results can be left out. -/
theorem flatMap_filter_of_nil {α β : Type} {items : List α} {keep : α → Bool} {results : α → List β}
    (silent : ∀ item ∈ items, keep item = false → results item = []) :
    (items.filter keep).flatMap results = items.flatMap results := by
  induction items with
  | nil => rfl
  | cons item items ih =>
      have rest := ih fun later member => silent later (List.mem_cons_of_mem item member)
      cases keeps : keep item with
      | false => rw [List.filter_cons_of_neg (by simp [keeps]), rest, List.flatMap_cons,
          silent item List.mem_cons_self keeps, List.nil_append]
      | true => rw [List.filter_cons_of_pos keeps, List.flatMap_cons, rest, List.flatMap_cons]

namespace Thinned

variable {lost : String → Prop} {full bare more bareMore : List String}

theorem refl (paths : List String) : Thinned lost paths paths where
  subset := List.Subset.refl paths
  remains := fun _ member => .inl member
  same := fun _ => rfl

theorem append (first : Thinned lost full bare) (second : Thinned lost more bareMore) :
    Thinned lost (full ++ more) (bare ++ bareMore) where
  subset := List.append_subset.mpr
    ⟨List.subset_append_of_subset_left more first.subset, List.subset_append_of_subset_right full second.subset⟩
  remains := by
    intro path member
    rcases List.mem_append.mp member with early | late
    · exact (first.remains path early).imp_left (List.mem_append_left bareMore)
    · exact (second.remains path late).imp_left (List.mem_append_right bare)
  same := by
    intro none
    rw [List.forall_mem_append] at none
    rw [first.same none.1, second.same none.2]

theorem flatMap {α : Type} {items : List α} {results bareResults : α → List String}
    (each : ∀ item ∈ items, Thinned lost (results item) (bareResults item)) :
    Thinned lost (items.flatMap results) (items.flatMap bareResults) := by
  induction items with
  | nil => exact refl []
  | cons item items ih =>
      rw [List.flatMap_cons, List.flatMap_cons]
      have rest := ih fun later member => each later (List.mem_cons_of_mem item member)
      exact (each item List.mem_cons_self).append rest

/-- Left out are items of which every result may be lost. -/
theorem flatMap_filter {α : Type} {items : List α} {keep : α → Bool} {results : α → List String}
    (losing : ∀ item ∈ items, keep item = false → ∀ path ∈ results item, lost path) :
    Thinned lost (items.flatMap results) ((items.filter keep).flatMap results) where
  subset := by
    intro path member
    obtain ⟨item, kept, result⟩ := List.mem_flatMap.mp member
    exact List.mem_flatMap.mpr ⟨item, List.mem_of_mem_filter kept, result⟩
  remains := by
    intro path member
    obtain ⟨item, inside, result⟩ := List.mem_flatMap.mp member
    cases keeps : keep item with
    | false => exact .inr (losing item inside keeps path result)
    | true => exact .inl (List.mem_flatMap.mpr ⟨item, List.mem_filter.mpr ⟨inside, keeps⟩, result⟩)
  same := by
    intro none
    apply flatMap_filter_of_nil
    intro item inside keeps
    apply List.eq_nil_iff_forall_not_mem.mpr
    intro path result
    exact none path (List.mem_flatMap.mpr ⟨item, inside, result⟩) (losing item inside keeps path result)

theorem eraseDups (thinned : Thinned lost full bare) : Thinned lost full.eraseDups bare.eraseDups where
  subset := by
    intro path member
    exact List.mem_eraseDups.mpr (thinned.subset (List.mem_eraseDups.mp member))
  remains := by
    intro path member
    exact (thinned.remains path (List.mem_eraseDups.mp member)).imp_left List.mem_eraseDups.mpr
  same := by
    intro none
    rw [thinned.same fun path member => none path (List.mem_eraseDups.mpr member)]

end Thinned

/-! ### Fragments -/

/-- The lines of a fragment that are not blank. -/
def Fragment.solid (fragment : Fragment) : List SourceLine :=
  fragment.lines.filter (!·.text.isEmpty)

/-- The second fragment has the same lines as the first one except for blank ones, and those as well if all
    is calm; and it needs the same imports less some that may be lost. -/
structure Fragment.Fades (lost : String → Prop) (calm : Prop) (full bare : Fragment) : Prop where
  solid : bare.solid = full.solid
  lines : calm → bare.lines = full.lines
  imports : Thinned lost full.imports bare.imports

@[simp] theorem Fragment.solid_append (first second : Fragment) :
    (first ++ second).solid = first.solid ++ second.solid :=
  List.filter_append ..

theorem Fragment.solid_concat (fragments : List Fragment) :
    (concat fragments).solid = fragments.flatMap solid := by
  rw [solid, lines_concat, List.filter_flatMap]
  rfl

@[simp] theorem Fragment.solid_deeper (fragment : Fragment) :
    fragment.deeper.solid = fragment.solid.map SourceLine.deeper := by
  rw [solid, deeper, List.filter_map]
  rfl

/-- A final blank line is not solid. -/
theorem Fragment.solid_withoutFinalBlank (fragment : Fragment) :
    fragment.withoutFinalBlank.solid = fragment.solid := by
  unfold withoutFinalBlank
  split
  · rename_i last found
    split
    · rename_i blank
      obtain ⟨before, lines⟩ := List.getLast?_eq_some_iff.mp found
      simp [solid, lines, blank]
    · rfl
  · rfl

namespace Fragment.Fades

variable {lost : String → Prop} {calm : Prop} {full bare more bareMore : Fragment}

theorem refl (fragment : Fragment) : Fades lost calm fragment fragment where
  solid := rfl
  lines := fun _ => rfl
  imports := .refl fragment.imports

theorem append (first : Fades lost calm full bare) (second : Fades lost calm more bareMore) :
    Fades lost calm (full ++ more) (bare ++ bareMore) where
  solid := by rw [solid_append, solid_append, first.solid, second.solid]
  lines := by
    intro settled
    rw [lines_append, lines_append, first.lines settled, second.lines settled]
  imports := first.imports.append second.imports

theorem concat {α : Type} {items : List α} {whole part : α → Fragment}
    (each : ∀ item ∈ items, Fades lost calm (whole item) (part item)) :
    Fades lost calm (.concat (items.map whole)) (.concat (items.map part)) := by
  induction items with
  | nil => exact refl _
  | cons item items ih =>
      have rest := ih fun later member => each later (List.mem_cons_of_mem item member)
      exact (each item List.mem_cons_self).append rest

/-- Items may come and go of which blank lines are written at most. -/
theorem concat_of_filter {α : Type} {all fewer : List α} {heard : α → Bool} {written : α → Fragment}
    (same : fewer.filter heard = all.filter heard) (settled : calm → fewer = all)
    (silent : ∀ item, heard item = false → (written item).solid = [] ∧ (written item).imports = []) :
    Fades lost calm (.concat (all.map written)) (.concat (fewer.map written)) where
  solid := by
    have heardOnly : ∀ items : List α, (Fragment.concat (items.map written)).solid =
        (items.filter heard).flatMap fun item => (written item).solid := by
      intro items
      rw [solid_concat, List.flatMap_map, flatMap_filter_of_nil fun item _ off => (silent item off).1]
    rw [heardOnly, heardOnly, same]
  lines := by
    intro calmly
    rw [settled calmly]
  imports := by
    have heardOnly : ∀ items : List α, (Fragment.concat (items.map written)).imports =
        (items.filter heard).flatMap fun item => (written item).imports := by
      intro items
      rw [imports_concat, List.flatMap_map, flatMap_filter_of_nil fun item _ off => (silent item off).2]
    rw [heardOnly, heardOnly, same]
    exact .refl _

/-- What is imported has no lines. -/
theorem importing {paths barePaths : List String} (thinned : Thinned lost paths barePaths) :
    Fades lost calm (.importing paths) (.importing barePaths) where
  solid := rfl
  lines := fun _ => rfl
  imports := thinned

theorem spaced (fades : Fades lost calm full bare) : Fades lost calm (Php.spaced full) (Php.spaced bare) :=
  fades.append (refl _)

theorem withoutFinalBlank (fades : Fades lost calm full bare) :
    Fades lost calm full.withoutFinalBlank bare.withoutFinalBlank where
  solid := by rw [solid_withoutFinalBlank, solid_withoutFinalBlank, fades.solid]
  lines := by
    intro settled
    have same := fades.lines settled
    unfold Fragment.withoutFinalBlank
    rw [same]
    split
    · split
      · rfl
      · exact same
    · exact same
  imports := by
    rw [imports_withoutFinalBlank, imports_withoutFinalBlank]
    exact fades.imports

theorem block (header : String) (fades : Fades lost calm full bare) :
    Fades lost calm (.block header full) (.block header bare) := by
  have inner : Fades lost calm full.deeper bare.deeper :=
    { solid := by rw [solid_deeper, solid_deeper, fades.solid]
      lines := fun settled => by rw [deeper, deeper, fades.lines settled]
      imports := fades.imports }
  exact ((refl _).append inner).append (refl _)

end Fragment.Fades

/-! ### Queries -/

section Queries

variable (model : Model) (chosen : ElementId → Bool) (id : ElementId)

@[simp] theorem namespaceOf_withoutUnnamed :
    namespaceOf (model.withoutUnnamed chosen) id = namespaceOf model id :=
  namespaceOf_mapClassifiers model _ id

@[simp] theorem qualifiedName_withoutUnnamed :
    qualifiedName (model.withoutUnnamed chosen) id = qualifiedName model id :=
  qualifiedName_mapClassifiers model _ id

@[simp] theorem tagsOf_withoutUnnamed : tagsOf (model.withoutUnnamed chosen) id = tagsOf model id := by
  rw [tagsOf, Model.classifier?_withoutUnnamed, tagsOf]
  cases model.classifier? id <;> rfl

@[simp] theorem superclasses_withoutUnnamed :
    superclasses (model.withoutUnnamed chosen) id = superclasses model id := by
  rw [superclasses, tagsOf_withoutUnnamed]
  rfl

@[simp] theorem superinterfaces_withoutUnnamed :
    superinterfaces (model.withoutUnnamed chosen) id = superinterfaces model id := by
  rw [superinterfaces, tagsOf_withoutUnnamed]
  rfl

@[simp] theorem parentClass?_withoutUnnamed :
    parentClass? (model.withoutUnnamed chosen) id = parentClass? model id := by
  have classes : (model.withoutUnnamed chosen).isClass = model.isClass :=
    funext (model.isClass_withoutUnnamed chosen)
  rw [parentClass?, superclasses_withoutUnnamed, classes, parentClass?]

@[simp] theorem interfacesOf_withoutUnnamed :
    interfacesOf (model.withoutUnnamed chosen) id = interfacesOf model id :=
  interfacesOf_mapClassifiers model _ id

@[simp] theorem traitsOf_withoutUnnamed :
    traitsOf (model.withoutUnnamed chosen) id = traitsOf model id :=
  traitsOf_mapClassifiers model _ id

@[simp] theorem useCaseStereotypes_withoutUnnamed :
    useCaseStereotypes (model.withoutUnnamed chosen) id = useCaseStereotypes model id :=
  useCaseStereotypes_mapClassifiers model _ id

/-- The name of a supertype is looked up alike. -/
@[simp] theorem name_withoutUnnamed (supertype : Supertype) :
    supertype.name (model.withoutUnnamed chosen) = supertype.name model := by
  cases supertype with
  | element id => exact model.nameOf_withoutUnnamed chosen id
  | tagged name => rfl

end Queries

/-! ### Imports -/

/-- The qualified name of the element that is the type of an attribute, if there is one. -/
def attributeMention (model : Model) (member : Attribute) : List String :=
  match member.type with
  | .element id => [qualifiedName model id]
  | _ => []

/-- The chosen classifiers of a model. -/
def classifiersAmong (model : Model) (chosen : ElementId → Bool) : List Classifier :=
  ((List.range model.elements.size).filter chosen).filterMap model.classifier?

/-- The operations without names of the chosen classifiers. -/
def unnamedOperations (model : Model) (chosen : ElementId → Bool) : List Operation :=
  (classifiersAmong model chosen).flatMap fun classifier => (classifier.keeping String.isEmpty).operations

/-- The attributes without names of the chosen classifiers. -/
def unnamedAttributes (model : Model) (chosen : ElementId → Bool) : List Attribute :=
  (classifiersAmong model chosen).flatMap fun classifier => (classifier.keeping String.isEmpty).attributes

/-- The qualified names that unnamed members of the chosen classifiers mention: the types of attributes, and
    those in the signatures of operations. -/
def unnamedMentions (model : Model) (chosen : ElementId → Bool) : List String :=
  (unnamedAttributes model chosen).flatMap (attributeMention model) ++
    (unnamedOperations model chosen).flatMap (operationTypes model)

/-- A name that unnamed members mention and that a unit in the namespace has to import on their account. -/
def MayBeLost (model : Model) (chosen : ElementId → Bool) (namespaceName path : String) : Prop :=
  path ∈ unnamedMentions model chosen ∧ needsImport path namespaceName = true

section Imports

variable {model : Model} {chosen : ElementId → Bool} {id : ElementId} {classifier : Classifier}

theorem mem_classifiersAmong (choice : chosen id = true) (found : model.classifier? id = some classifier) :
    classifier ∈ classifiersAmong model chosen := by
  obtain ⟨element, place, _⟩ := Option.bind_eq_some_iff.mp found
  obtain ⟨inside, _⟩ := Array.getElem?_eq_some_iff.mp place
  exact List.mem_filterMap.mpr ⟨id, List.mem_filter.mpr ⟨List.mem_range.mpr inside, choice⟩, found⟩

/-- An operation that is left out is an unnamed one. -/
theorem mem_unnamedOperations {operation : Operation} (found : model.classifier? id = some classifier)
    (declared : operation ∈ classifier.operations) (left : keptIn chosen id operation.name = false) :
    operation ∈ unnamedOperations model chosen := by
  obtain ⟨choice, unnamed⟩ := keptIn_eq_false.mp left
  refine List.mem_flatMap.mpr ⟨classifier, mem_classifiersAmong choice found, ?_⟩
  exact List.mem_filter.mpr ⟨declared, String.isEmpty_iff.mpr unnamed⟩

theorem mem_unnamedAttributes {member : Attribute} (found : model.classifier? id = some classifier)
    (declared : member ∈ classifier.attributes) (left : keptIn chosen id member.name = false) :
    member ∈ unnamedAttributes model chosen := by
  obtain ⟨choice, unnamed⟩ := keptIn_eq_false.mp left
  refine List.mem_flatMap.mpr ⟨classifier, mem_classifiersAmong choice found, ?_⟩
  exact List.mem_filter.mpr ⟨declared, String.isEmpty_iff.mpr unnamed⟩

theorem map_attributeTypes (model : Model) (classifier : Classifier) :
    (attributeTypes classifier).map (qualifiedName model) =
      classifier.attributes.flatMap (attributeMention model) := by
  rw [attributeTypes, List.map_filterMap, List.filterMap_eq_flatMap_toList]
  apply List.flatMap_congr
  intro member _
  unfold attributeMention
  cases member.type <;> rfl

@[simp] theorem operationTypes_withoutUnnamed (model : Model) (chosen : ElementId → Bool)
    (operation : Operation) :
    operationTypes (model.withoutUnnamed chosen) operation = operationTypes model operation := by
  simp only [operationTypes, qualifiedName_withoutUnnamed]

variable (model chosen id) (namespaceName : String)

/-- The types of attributes that have to be imported are the same but for those of unnamed attributes. -/
theorem attributeTypes_thinned :
    Thinned (MayBeLost model chosen namespaceName)
      (((((model.classifier? id).map attributeTypes).getD []).map (qualifiedName model)).filter
        (needsImport · namespaceName))
      ((((((model.withoutUnnamed chosen).classifier? id).map attributeTypes).getD []).map
        (qualifiedName (model.withoutUnnamed chosen))).filter (needsImport · namespaceName)) := by
  have names : qualifiedName (model.withoutUnnamed chosen) = qualifiedName model :=
    funext (qualifiedName_withoutUnnamed model chosen)
  rw [Model.classifier?_withoutUnnamed, names]
  cases found : model.classifier? id with
  | none => exact .refl []
  | some classifier =>
      simp only [Option.map_some, Option.getD_some, map_attributeTypes, List.filter_flatMap]
      apply Thinned.flatMap_filter
      intro member declared left path mentioned
      obtain ⟨mentioned, imported⟩ := List.mem_filter.mp mentioned
      refine ⟨List.mem_append_left _ ?_, imported⟩
      exact List.mem_flatMap.mpr ⟨member, mem_unnamedAttributes found declared left, mentioned⟩

/-- The types in signatures that have to be imported are the same but for those of unnamed operations. -/
theorem signatureTypes_thinned :
    Thinned (MayBeLost model chosen namespaceName)
      ((signatureTypes model id).filter (needsImport · namespaceName))
      ((signatureTypes (model.withoutUnnamed chosen) id).filter (needsImport · namespaceName)) := by
  have types : operationTypes (model.withoutUnnamed chosen) = operationTypes model :=
    funext (operationTypes_withoutUnnamed model chosen)
  rw [signatureTypes, signatureTypes, interfacesOf_withoutUnnamed, types, List.filter_flatMap,
    List.filter_flatMap]
  apply Thinned.flatMap
  intro owner _
  rw [Model.classifier?_withoutUnnamed]
  cases found : model.classifier? owner with
  | none => exact .refl []
  | some classifier =>
      simp only [Option.map_some, Option.getD_some, List.filter_flatMap]
      apply Thinned.flatMap_filter
      intro operation declared left path mentioned
      obtain ⟨mentioned, imported⟩ := List.mem_filter.mp mentioned
      refine ⟨List.mem_append_right _ ?_, imported⟩
      exact List.mem_flatMap.mpr ⟨operation, mem_unnamedOperations found declared left, mentioned⟩

/-- An element needs the same imports but for what only unnamed members mention. -/
theorem importsOf_thinned :
    Thinned (MayBeLost model chosen namespaceName) (importsOf model id namespaceName)
      (importsOf (model.withoutUnnamed chosen) id namespaceName) := by
  have names : qualifiedName (model.withoutUnnamed chosen) = qualifiedName model :=
    funext (qualifiedName_withoutUnnamed model chosen)
  apply Thinned.eraseDups
  unfold importCandidates
  simp only [traitsOf_withoutUnnamed, superclasses_withoutUnnamed, superinterfaces_withoutUnnamed,
    useCaseStereotypes_withoutUnnamed, List.filter_append]
  have attributes := attributeTypes_thinned model chosen id namespaceName
  have signatures := signatureTypes_thinned model chosen id namespaceName
  rw [names] at attributes ⊢
  exact ((((attributes.append (.refl _)).append (.refl _)).append (.refl _)).append signatures).append
    (.refl _)

end Imports

/-! ### Members -/

/-- The rendering of the model less the unnamed members of chosen elements. -/
def Rendering.withoutUnnamed (rendering : Rendering) (chosen : ElementId → Bool) : Rendering :=
  { rendering with model := rendering.model.withoutUnnamed chosen }

/-- A fragment of the rendering fades to another one when unnamed members of chosen elements are left out: some
    imports of theirs may be lost, and if no operation is left out then no line is. -/
abbrev Rendering.Fades (rendering : Rendering) (chosen : ElementId → Bool) : Fragment → Fragment → Prop :=
  Fragment.Fades (MayBeLost rendering.model chosen rendering.namespaceName)
    (unnamedOperations rendering.model chosen = [])

/-- The subject with those members only whose names are kept. -/
def Subject.keeping (kept : String → Bool) (subject : Subject) : Subject :=
  ⟨subject.id, subject.element.keeping kept, subject.classifier.keeping kept⟩

theorem find?_withoutUnnamed (model : Model) (chosen : ElementId → Bool) (id : ElementId) :
    Subject.find? (model.withoutUnnamed chosen) id =
      (Subject.find? model id).map (.keeping (keptIn chosen id)) :=
  find?_mapClassifiers model _ id

section Members

variable (rendering : Rendering) (chosen : ElementId → Bool)

@[simp] theorem model_withoutUnnamed :
    (rendering.withoutUnnamed chosen).model = rendering.model.withoutUnnamed chosen := rfl

@[simp] theorem namespaceName_withoutUnnamed :
    (rendering.withoutUnnamed chosen).namespaceName = rendering.namespaceName := rfl

theorem alike_withoutUnnamed : rendering.Alike (rendering.withoutUnnamed chosen) :=
  ⟨rfl, rfl⟩

/-- Types are written alike, whatever members there are. -/
theorem writesAlike_withoutUnnamed (shape : Shape) :
    rendering.WritesAlike (rendering.withoutUnnamed chosen) shape := by
  intro style bare
  have seen : ∀ id, (rendering.withoutUnnamed chosen).seen id = rendering.seen id := by
    intro id
    simp only [Scope.seen, model_withoutUnnamed, namespaceName_withoutUnnamed, namespaceOf_withoutUnnamed,
      Model.nameOf_withoutUnnamed, qualifiedName_withoutUnnamed]
  have value : (rendering.withoutUnnamed chosen).valueType shape bare = rendering.valueType shape bare := by
    simp only [Scope.valueType, seen, model_withoutUnnamed, Model.nameOf_withoutUnnamed]
  have type : (rendering.withoutUnnamed chosen).memberType shape style bare =
      rendering.memberType shape style bare := by
    rw [Scope.memberType, Scope.memberType, value]
  simp only [Scope.typeText, type]

theorem field_withoutUnnamed (member : Variable) :
    (rendering.withoutUnnamed chosen).field member = rendering.field member :=
  (alike_withoutUnnamed rendering chosen).field (writesAlike_withoutUnnamed rendering chosen member.shape)

theorem method_withoutUnnamed (owner : String) (operation : Operation) (specified : Fragment)
    (style : SignatureStyle) :
    (rendering.withoutUnnamed chosen).method owner operation specified style =
      rendering.method owner operation specified style :=
  (alike_withoutUnnamed rendering chosen).method
    (fun parameter _ => writesAlike_withoutUnnamed rendering chosen parameter.shape) owner specified style

theorem traitUses_withoutUnnamed (subject : Subject) (kept : String → Bool) :
    (rendering.withoutUnnamed chosen).traitUses (subject.keeping kept) = rendering.traitUses subject := by
  simp only [Rendering.traitUses, model_withoutUnnamed, Subject.keeping, traitsOf_withoutUnnamed,
    Model.nameOf_withoutUnnamed]

variable (subject : Subject) {kept : String → Bool} (keeps : ∀ name, name ≠ "" → kept name = true)

include keeps

/-- An association end that has a name hides behind named attributes only. -/
theorem memberEnds_withoutUnnamed :
    (rendering.withoutUnnamed chosen).memberEnds (subject.keeping kept) = rendering.memberEnds subject := by
  rw [Rendering.memberEnds, Rendering.memberEnds]
  dsimp only [model_withoutUnnamed, Subject.keeping]
  apply List.filterMap_congr
  intro relationship _
  cases relationship with
  | association ends =>
      have hidden : ∀ name, name ≠ "" → (subject.classifier.keeping kept).attributes.any (·.name == name) =
          subject.classifier.attributes.any (·.name == name) := by
        intro name named
        rw [Classifier.keeping, List.any_filter]
        congr 1
        funext member
        by_cases same : member.name = name
        · rw [same, keeps name named, Bool.true_and]
        · simp [same]
      dsimp only
      cases ends.endFrom? subject.id with
      | none => rfl
      | some found =>
          by_cases named : found.name = ""
          · simp [Option.filter_some, named]
          · rw [Option.filter_some, Option.filter_some, hidden found.name named]
  | _ => rfl

theorem endFields_withoutUnnamed :
    (rendering.withoutUnnamed chosen).endFields (subject.keeping kept) = rendering.endFields subject := by
  rw [Rendering.endFields, memberEnds_withoutUnnamed rendering chosen subject keeps, Rendering.endFields]
  simp only [field_withoutUnnamed]

theorem attributeFields_withoutUnnamed :
    (rendering.withoutUnnamed chosen).attributeFields (subject.keeping kept) =
      rendering.attributeFields subject := by
  have named : (subject.keeping kept).classifier.attributes.filter (!·.name.isEmpty) =
      subject.classifier.attributes.filter (!·.name.isEmpty) :=
    filter_named_keeping keeps subject.classifier.attributes
  rw [Rendering.attributeFields, named, Rendering.attributeFields]
  simp only [field_withoutUnnamed]

theorem namedLiterals_keeping (classifier : Classifier) :
    Rendering.namedLiterals (classifier.keeping kept) = Rendering.namedLiterals classifier := by
  have named : (classifier.keeping kept).literals.filter (!·.name.isEmpty) =
      classifier.literals.filter (!·.name.isEmpty) :=
    filter_named_keeping keeps classifier.literals
  rw [Rendering.namedLiterals, named, Rendering.namedLiterals]

theorem needsConstructor_withoutUnnamed :
    (rendering.withoutUnnamed chosen).needsConstructor (subject.keeping kept) =
      rendering.needsConstructor subject := by
  have declares : (subject.keeping kept).classifier.declares "__construct" =
      subject.classifier.declares "__construct" :=
    subject.classifier.declares_keeping (keeps _ (by decide))
  rw [Rendering.needsConstructor, declares, model_withoutUnnamed, superclasses_withoutUnnamed,
    Rendering.needsConstructor]
  rfl

end Members

/-! ### Methods of a class -/

section Methods

variable {kept : String → Bool} (keeps : ∀ name, name ≠ "" → kept name = true) (owner : Classifier)

include keeps

theorem accessors_keeping (member : Attribute) : accessors (owner.keeping kept) member = accessors owner member := by
  have words : ∀ operation ∈ [setter member, getter member], operation.name ≠ "" := by
    have getting : getterWord member.type ≠ "" := by
      unfold getterWord
      split <;> decide
    simp [setter, getter, getting]
  unfold accessors
  split
  · apply List.filter_congr
    intro operation member
    rw [owner.declares_keeping (keeps _ (words operation member))]
  · rfl

/-- An attribute without a name has no accessors. -/
theorem flatMap_accessors_keeping :
    (owner.keeping kept).attributes.flatMap (accessors (owner.keeping kept)) =
      owner.attributes.flatMap (accessors owner) := by
  have same : accessors (owner.keeping kept) = accessors owner := funext (accessors_keeping keeps owner)
  rw [same]
  apply flatMap_filter_of_nil
  intro member _ left
  have unnamed : member.name = "" := by
    by_contra named
    rw [keeps _ named] at left
    cases left
  simp [accessors, hasAccessors, unnamed]

theorem stereotypeMethods_keeping : stereotypeMethods (owner.keeping kept) = stereotypeMethods owner := by
  have tags : (owner.keeping kept).tags = owner.tags := rfl
  rw [stereotypeMethods, tags, stereotypeMethods]
  apply List.foldl_ext
  intro methods method called
  have named : method.name ≠ "" := by
    obtain ⟨tag, _, called⟩ := List.mem_filterMap.mp called
    unfold stereotypeMethod? at called
    split at called <;> cases called <;> decide
  rw [owner.declares_keeping (keeps _ named)]
  rfl

end Methods

section ClassMethods

variable {rendering : Rendering} {chosen : ElementId → Bool} {asked : String → Bool}
  (spares : ∀ id classifier, rendering.model.classifier? id = some classifier →
    classifier.Spares (keptIn chosen id) asked)

include spares

/-- The placeholders for interfaces that are asked for are the same. -/
theorem filter_interfaceStubs (id : ElementId) :
    (interfaceStubs (rendering.model.withoutUnnamed chosen) id).filter (asked ·.name) =
      (interfaceStubs rendering.model id).filter (asked ·.name) := by
  rw [interfaceStubs, interfaceStubs, Model.classifier?_withoutUnnamed, interfacesOf_withoutUnnamed]
  cases found : rendering.model.classifier? id with
  | none => rfl
  | some owner =>
      simp only [Option.map_some, List.filter_map, List.filter_filter, List.filter_flatMap]
      apply congrArg (List.map concrete)
      apply List.flatMap_congr
      intro target _
      rw [Model.classifier?_withoutUnnamed]
      cases required : rendering.model.classifier? target with
      | none => rfl
      | some data =>
          exact (spares id owner found).filter_undeclared (spares target data required) fun _ => true

/-- The placeholders for a superclass that are asked for are the same. -/
theorem filter_abstractOverrides (id : ElementId) :
    (abstractOverrides (rendering.model.withoutUnnamed chosen) id).filter (asked ·.name) =
      (abstractOverrides rendering.model id).filter (asked ·.name) := by
  rw [abstractOverrides, abstractOverrides, Model.classifier?_withoutUnnamed, parentClass?_withoutUnnamed]
  cases found : rendering.model.classifier? id with
  | none => rfl
  | some owner =>
      cases parentClass? rendering.model id with
      | none => rfl
      | some parent =>
          rw [Option.bind_some, Option.bind_some, Model.classifier?_withoutUnnamed]
          cases required : rendering.model.classifier? parent with
          | none => rfl
          | some data =>
              simp only [Option.map_some, List.filter_map, List.filter_filter]
              apply congrArg (List.map concrete)
              exact (spares id owner found).filter_undeclared (spares parent data required)
                Operation.isAbstract

/-- The methods of a class that are asked for are the same, in the same order. -/
theorem filter_classMethods {subject : Subject} {id : ElementId}
    (found : Subject.find? rendering.model id = some subject) :
    ((rendering.withoutUnnamed chosen).classMethods (subject.keeping (keptIn chosen id))).filter
        (asked ·.name) =
      (rendering.classMethods subject).filter (asked ·.name) := by
  obtain ⟨rfl, -, isClassifier⟩ := eq_of_find? found
  have keeps : ∀ name, name ≠ "" → keptIn chosen subject.id name = true := fun _ => keptIn_of_named
  have declared : ∀ wanted : Operation → Bool,
      ((subject.classifier.keeping (keptIn chosen subject.id)).operations.filter wanted).filter (asked ·.name) =
        (subject.classifier.operations.filter wanted).filter (asked ·.name) := by
    intro wanted
    rw [List.filter_filter, List.filter_filter]
    apply (spares _ _ isClassifier).filter_operations
    intro operation both
    exact (Bool.and_eq_true_iff.mp both).1
  have factories : (fun method : ClassMethod => asked method.name) ∘ .factory = (asked ·.name) := rfl
  have others : (fun method : ClassMethod => asked method.name) ∘ .ordinary = (asked ·.name) := rfl
  rw [Rendering.classMethods, Rendering.classMethods,
    needsConstructor_withoutUnnamed rendering chosen subject keeps]
  simp only [List.filter_append, List.filter_map, factories, others, Rendering.synthesized,
    model_withoutUnnamed]
  dsimp only [Subject.keeping]
  rw [flatMap_accessors_keeping keeps, stereotypeMethods_keeping keeps, declared, declared,
    filter_interfaceStubs spares, filter_abstractOverrides spares]

end ClassMethods

/-! ### Declarations -/

section Declarations

variable {rendering : Rendering} {chosen : ElementId → Bool} {subject : Subject} {id : ElementId}

theorem spares_named (model : Model) (chosen : ElementId → Bool) (id : ElementId) (classifier : Classifier) :
    model.classifier? id = some classifier → classifier.Spares (keptIn chosen id) (!·.isEmpty) := by
  intro _ operation _ named
  exact keptIn_of_named (by simpa using named)

/-- If there are no unnamed operations, none is left out. -/
theorem spares_all {model : Model} (calm : unnamedOperations model chosen = []) (id : ElementId)
    (classifier : Classifier) (found : model.classifier? id = some classifier) :
    classifier.Spares (keptIn chosen id) fun _ => true := by
  intro operation declared _
  by_contra left
  have member := mem_unnamedOperations found declared (Bool.eq_false_iff.mpr left)
  rw [calm] at member
  cases member

/-- What an unnamed operation leaves is a blank line. -/
theorem spaced_method_of_unnamed (rendering : Rendering) (owner : String) {operation : Operation}
    (unnamed : operation.name.isEmpty = true) (specified : Fragment) (style : SignatureStyle) :
    spaced (rendering.method owner operation specified style) = .blank := by
  rw [Rendering.method, if_pos unnamed]
  rfl

theorem spaced_classMethod_of_unnamed (rendering : Rendering) (subject : Subject) {method : ClassMethod}
    (unnamed : method.name.isEmpty = true) : spaced (rendering.classMethod subject method) = .blank := by
  cases method with
  | defaultConstructor => cases unnamed
  | factory operation => exact spaced_method_of_unnamed rendering _ unnamed _ _
  | ordinary operation => exact spaced_method_of_unnamed rendering _ unnamed _ _

theorem classMethod_withoutUnnamed (subject : Subject) (kept : String → Bool) (method : ClassMethod) :
    (rendering.withoutUnnamed chosen).classMethod (subject.keeping kept) method =
      rendering.classMethod subject method := by
  cases method with
  | defaultConstructor => rfl
  | factory operation => exact method_withoutUnnamed rendering chosen _ operation _ _
  | ordinary operation => exact method_withoutUnnamed rendering chosen _ operation _ _

/-- What an element needs imported fades to what named members mention. -/
theorem elementImports_fades (kept : String → Bool) :
    rendering.Fades chosen (rendering.elementImports subject)
      ((rendering.withoutUnnamed chosen).elementImports (subject.keeping kept)) :=
  .importing (importsOf_thinned rendering.model chosen subject.id rendering.namespaceName)

/-- The header of a declaration does not depend on members. -/
theorem headerText_withoutUnnamed (model : Model) (options : Options) (subject : Subject)
    (kept : String → Bool) (form : Form) :
    headerText (model.withoutUnnamed chosen) options (subject.keeping kept) form =
      headerText model options subject form := by
  have names : Supertype.name (model.withoutUnnamed chosen) = Supertype.name model :=
    funext (name_withoutUnnamed model chosen)
  have clauses : clausesOf (model.withoutUnnamed chosen) subject.id form = clausesOf model subject.id form := by
    cases form <;> simp [clausesOf]
  have words : heading options (subject.keeping kept) form = heading options subject form := by
    cases form <;> rfl
  rw [headerText, names, words]
  dsimp only [Subject.keeping]
  rw [clauses]
  rfl

variable (found : Subject.find? rendering.model id = some subject)

include found

/-- The methods of a class fade to those with names. -/
theorem classMethods_fades :
    rendering.Fades chosen
      (.concat ((rendering.classMethods subject).map fun method =>
        spaced (rendering.classMethod subject method)))
      (.concat (((rendering.withoutUnnamed chosen).classMethods (subject.keeping (keptIn chosen id))).map
        fun method =>
          spaced ((rendering.withoutUnnamed chosen).classMethod (subject.keeping (keptIn chosen id)) method))) := by
  simp only [classMethod_withoutUnnamed]
  apply Fragment.Fades.concat_of_filter
  case same => exact filter_classMethods (spares_named rendering.model chosen) found
  case settled =>
    intro calm
    have all := filter_classMethods (spares_all calm) found
    rwa [List.filter_true, List.filter_true] at all
  case silent =>
    intro method off
    rw [spaced_classMethod_of_unnamed rendering subject (by simpa using off)]
    exact ⟨rfl, rfl⟩

/-- Methods without bodies fade to those with names. -/
theorem bareMethods_fades (withParameters : Bool) :
    rendering.Fades chosen (rendering.bareMethods subject withParameters)
      ((rendering.withoutUnnamed chosen).bareMethods (subject.keeping (keptIn chosen id)) withParameters) := by
  have isClassifier := (eq_of_find? found).2.2
  unfold Rendering.bareMethods Rendering.operationMethod
  simp only [method_withoutUnnamed]
  apply Fragment.Fades.concat_of_filter
  case same =>
    exact filter_named_keeping (fun _ => keptIn_of_named) subject.classifier.operations
  case settled =>
    intro calm
    apply List.filter_eq_self.mpr
    intro operation declared
    exact spares_all calm id _ isClassifier operation declared rfl
  case silent =>
    intro operation off
    rw [spaced_method_of_unnamed rendering _ (by simpa using off)]
    exact ⟨rfl, rfl⟩

/-- The members of a class fade around what is nested in it. -/
theorem classMembers_fades {nested bareNested : Fragment}
    (fades : rendering.Fades chosen nested bareNested) :
    rendering.Fades chosen (rendering.classMembers subject nested)
      ((rendering.withoutUnnamed chosen).classMembers (subject.keeping (keptIn chosen id)) bareNested) := by
  have keeps : ∀ name, name ≠ "" → keptIn chosen id name = true := fun _ => keptIn_of_named
  unfold Rendering.classMembers
  rw [traitUses_withoutUnnamed, attributeFields_withoutUnnamed rendering chosen subject keeps,
    endFields_withoutUnnamed rendering chosen subject keeps]
  exact ((Fragment.Fades.refl _).append (classMethods_fades found)).append fades

/-- A declaration fades around what is nested in it. -/
theorem declarationIn_fades {nested bareNested : Fragment} (fades : rendering.Fades chosen nested bareNested)
    (form : Form) :
    rendering.Fades chosen (declarationIn rendering subject nested form)
      (declarationIn (rendering.withoutUnnamed chosen) (subject.keeping (keptIn chosen id)) bareNested
        form) := by
  have keeps : ∀ name, name ≠ "" → keptIn chosen id name = true := fun _ => keptIn_of_named
  have imports : rendering.Fades chosen (rendering.elementImports subject)
      ((rendering.withoutUnnamed chosen).elementImports (subject.keeping (keptIn chosen id))) :=
    elementImports_fades (keptIn chosen id)
  have header : headerText (rendering.model.withoutUnnamed chosen) rendering.options
      (subject.keeping (keptIn chosen id)) form = headerText rendering.model rendering.options subject form :=
    headerText_withoutUnnamed rendering.model rendering.options subject (keptIn chosen id) form
  cases form with
  | classForm =>
      rw [declarationIn, declarationIn, Rendering.classDeclaration, Rendering.classDeclaration,
        classHeader_eq, classHeader_eq]
      dsimp only [model_withoutUnnamed]
      have same : (rendering.withoutUnnamed chosen).options = rendering.options := rfl
      rw [same, header]
      exact (imports.append (.refl _)).append (.block _ (classMembers_fades found fades).withoutFinalBlank)
  | interfaceForm =>
      rw [declarationIn, declarationIn, Rendering.interfaceDeclaration, Rendering.interfaceDeclaration,
        interfaceHeader_eq, interfaceHeader_eq, attributeFields_withoutUnnamed rendering chosen subject keeps,
        endFields_withoutUnnamed rendering chosen subject keeps]
      have same : (rendering.withoutUnnamed chosen).options = rendering.options := rfl
      dsimp only [model_withoutUnnamed]
      rw [same, header]
      have members (before : Fragment) :=
        ((Fragment.Fades.refl before).append (bareMethods_fades found true)).append fades
      exact (imports.append (.refl _)).append (.block _ (members _).withoutFinalBlank)
  | annotationForm =>
      rw [declarationIn, declarationIn, Rendering.annotationDeclaration, Rendering.annotationDeclaration,
        attributeFields_withoutUnnamed rendering chosen subject keeps]
      have members (before : Fragment) :=
        ((Fragment.Fades.refl before).append (bareMethods_fades found false)).append fades
      exact (Fragment.Fades.refl _).append (.block _ (members _).withoutFinalBlank)
  | enumForm =>
      rw [declarationIn, declarationIn, Rendering.enumDeclaration, Rendering.enumDeclaration]
      have literals : Rendering.namedLiterals (subject.keeping (keptIn chosen id)).classifier =
          Rendering.namedLiterals subject.classifier := namedLiterals_keeping keeps subject.classifier
      have same : (rendering.withoutUnnamed chosen).options = rendering.options := rfl
      simp only [literals, same]
      cases rendering.options.enumStyle with
      | native => exact (imports.append (.refl _)).append (.refl _)
      | splEnum => exact (imports.append (.refl _)).append (.refl _)

end Declarations

/-- Declarations fade at every level of nesting. -/
theorem declareNested_fades (rendering : Rendering) (chosen : ElementId → Bool) (depth : Nat) (form : Form)
    (id : ElementId) :
    rendering.Fades chosen (rendering.declareNested depth form id)
      ((rendering.withoutUnnamed chosen).declareNested depth form id) := by
  induction depth generalizing form id with
  | zero => exact .refl .empty
  | succ depth ih =>
      have lookup := find?_withoutUnnamed rendering.model chosen id
      cases found : Subject.find? rendering.model id with
      | none =>
          rw [found] at lookup
          rw [declareNested_of_absent found, declareNested_of_absent lookup]
          exact .refl .empty
      | some subject =>
          rw [found] at lookup
          rw [declareNested_succ found, declareNested_succ lookup]
          apply declarationIn_fades found
          apply Fragment.Fades.concat
          intro child _
          have nests : ((rendering.withoutUnnamed chosen).model.element? child).bind
                (Rendering.nestedForm? form) =
              (rendering.model.element? child).bind (Rendering.nestedForm? form) :=
            nestedForm?_mapClassifiers rendering.model _ child form
          rw [nests]
          cases (rendering.model.element? child).bind (Rendering.nestedForm? form) with
          | none => exact .refl .empty
          | some inner => exact (ih inner child).spaced

theorem declare_fades (rendering : Rendering) (chosen : ElementId → Bool) (id : ElementId) :
    rendering.Fades chosen (rendering.declare id) ((rendering.withoutUnnamed chosen).declare id) := by
  have kind : ((rendering.withoutUnnamed chosen).model.element? id).bind (·.content.kind?) =
      (rendering.model.element? id).bind (·.content.kind?) := rendering.model.bind_kind?_mapClassifiers _ id
  have size : (rendering.withoutUnnamed chosen).model.elements.size = rendering.model.elements.size :=
    rendering.model.size_mapClassifiers _
  rw [Rendering.declare, Rendering.declare, kind]
  cases (rendering.model.element? id).bind (·.content.kind?) with
  | none => exact .refl .empty
  | some kind =>
      dsimp only
      rw [Rendering.declareAs, Rendering.declareAs, size]
      exact declareNested_fades rendering chosen _ _ id

/-! ### Units -/

/-- The second unit is the first one less the unnamed members of chosen elements of the model. They have no
    lines: except for blank ones, the lines are the same. What is no longer imported is what they mention.
    With no operations among them there are no blank lines either; and if besides nothing has to be imported
    on account of the attributes among them, then the text of the file is the same. -/
structure LosesUnnamed (model : Model) (chosen : ElementId → Bool) (full bare : SourceUnit) : Prop where
  namespaceName : bare.namespaceName = full.namespaceName
  solidLines : bare.solidLines = full.solidLines
  imports : bare.imports ⊆ full.imports
  lost : ∀ path ∈ full.imports, path ∈ bare.imports ∨
    ∃ mention, MayBeLost model chosen full.namespaceName mention ∧ path = SourceUnit.barePath mention
  lines : unnamedOperations model chosen = [] → bare.lines = full.lines
  text : unnamedOperations model chosen = [] →
    (∀ mention, ¬MayBeLost model chosen full.namespaceName mention) → bare.finish = full.finish

theorem solidLines_emit (indentUnit namespaceName : String) (fragment : Fragment) :
    ((SourceUnit.start indentUnit namespaceName).emit fragment).solidLines =
      fragment.solid.map (·.render indentUnit 0) := by
  rw [SourceUnit.solidLines, SourceUnit.emit_eq]
  simp [SourceUnit.start, List.filter_map, Function.comp_def, isEmpty_render, Fragment.solid]

/-- Units that start alike and take in fragments of which one fades to the other. -/
theorem losesUnnamed_emit {rendering : Rendering} {chosen : ElementId → Bool} {full bare : Fragment}
    (fades : rendering.Fades chosen full bare) (indentUnit : String) :
    LosesUnnamed rendering.model chosen
      ((SourceUnit.start indentUnit rendering.namespaceName).emit full)
      ((SourceUnit.start indentUnit rendering.namespaceName).emit bare) := by
  have inNamespace : ∀ fragment, ((SourceUnit.start indentUnit rendering.namespaceName).emit
      fragment).namespaceName = rendering.namespaceName := by
    intro fragment
    rw [SourceUnit.emit_eq]
    rfl
  have imported : ∀ {fragment path}, path ∈ ((SourceUnit.start indentUnit rendering.namespaceName).emit
        fragment).imports → ∃ full ∈ fragment.imports, path = SourceUnit.barePath full ∧ path ≠ "" := by
    intro fragment path member
    rw [SourceUnit.emit_eq] at member
    exact (SourceUnit.exists_of_mem_foldl_addImport member).resolve_left List.not_mem_nil
  constructor
  case namespaceName => rw [inNamespace, inNamespace]
  case solidLines => rw [solidLines_emit, solidLines_emit, fades.solid]
  case imports =>
    intro path member
    obtain ⟨mention, needed, rfl, filled⟩ := imported member
    exact SourceUnit.barePath_mem_imports_emit (fades.imports.subset needed) filled
  case lost =>
    intro path member
    obtain ⟨mention, needed, rfl, filled⟩ := imported member
    rw [inNamespace]
    rcases fades.imports.remains mention needed with still | lost
    · exact .inl (SourceUnit.barePath_mem_imports_emit still filled)
    · exact .inr ⟨mention, lost, rfl⟩
  case lines =>
    intro calm
    rw [SourceUnit.emit_eq, SourceUnit.emit_eq, fades.lines calm]
  case text =>
    intro calm none
    rw [inNamespace] at none
    have same : bare = full :=
      Fragment.ext (fades.imports.same fun mention _ => none mention) (fades.lines calm)
    rw [same]

/-- Unnamed members of whatever elements leave no lines behind in the unit of an element, with whatever
    options; what may stay is the blank line after an operation, and what they need imported. -/
theorem unnamed_members_leave_no_lines (model : Model) (options : Options) (chosen : ElementId → Bool)
    (id : ElementId) :
    Option.Rel (LosesUnnamed model chosen) (unitOf? model options id)
      (unitOf? (model.withoutUnnamed chosen) options id) := by
  unfold unitOf?
  rw [find?_withoutUnnamed]
  cases Subject.find? model id with
  | none => exact .none
  | some subject =>
      have name : (subject.keeping (keptIn chosen id)).element.name = subject.element.name := rfl
      simp only [Option.map_some, name, namespaceOf_withoutUnnamed]
      split
      · exact .none
      · exact .some (losesUnnamed_emit
          (declare_fades (renderingIn model options (namespaceOf model id)) chosen id) options.indent.unit)

/-- An interface with a method `run` and an operation without a name: where the latter was, a blank line
    stands before the closing brace. -/
example :
    let model : Model :=
      { author? := none
        elements := #[{ id := 0, name := "Jobs", parent? := none, owned := [1], content := .model },
          { id := 1, name := "Job", parent? := some 0,
            content := .classifier .interface { operations := [{ name := "run" }, {}] } }]
        relationships := []
        keys := [] }
    (unitOf? model { docs := false } 1).map (·.lines.toList) =
      some ["interface Job", "\x7b", "    public function run();", "", "\x7d"] := by
  decide +kernel

end Blueprint.Php
