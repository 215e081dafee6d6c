/-
Module: Blueprint.Proofs.Php.Locality
Purpose: What queries read of a model. The names, supertypes, traits and imports of an element and the
  operations that it gets are found out from the relationships that lead away from it and from the elements
  that it leads to, and from nothing else: models that agree from a core answer alike for every element of
  the core, and name every element alike that the core leads to.
Main exports: mentions_generalizedBy, mentions_realizedBy, mentions_traitsOf, OperationWithin,
  Model.AgreesFrom.qualifiedName, Model.AgreesFrom.superclasses, Model.AgreesFrom.importsOf,
  Model.AgreesFrom.interfaceStubs, Model.AgreesFrom.abstractOverrides
-/
import Blueprint.Proofs.Model.Reach
import Blueprint.Proofs.Php.Synthesis

namespace Blueprint.Php

/-! ### What queries mention -/

section Mentioned

variable {model : Model} {id target : ElementId}

theorem mentions_generalizedBy (member : target ∈ generalizedBy model id) : model.Mentions id target := by
  obtain ⟨relationship, declared, leads⟩ := List.mem_filterMap.mp member
  cases relationship with
  | generalization source found =>
      simp only at leads
      split at leads
      · rename_i same
        cases leads
        exact .directed declared (by rw [← same]; rfl) rfl
      · cases leads
  | _ => cases leads

theorem mentions_realizedBy (member : target ∈ realizedBy model id) : model.Mentions id target := by
  obtain ⟨relationship, declared, leads⟩ := List.mem_filterMap.mp member
  cases relationship with
  | realization source found =>
      simp only at leads
      split at leads
      · rename_i same
        cases leads
        exact .directed declared (by rw [← same]; rfl) rfl
      · cases leads
  | _ => cases leads

theorem mentions_traitsOf {use : TraitUse} (member : use ∈ traitsOf model id) :
    model.Mentions id use.target := by
  obtain ⟨relationship, declared, leads⟩ := List.mem_filterMap.mp member
  cases relationship with
  | dependency source found mapping? =>
      simp only at leads
      split at leads
      · rename_i both
        cases leads
        exact .directed declared (by rw [← both.1]; rfl) rfl
      · cases leads
  | _ => cases leads

/-- Only relationships give superclasses that are elements; tags give names. -/
theorem mem_superclasses_element (member : .element target ∈ superclasses model id) :
    target ∈ generalizedBy model id := by
  rcases List.mem_append.mp member with declared | tagged
  · obtain ⟨found, general, same⟩ := List.mem_map.mp declared
    cases same
    exact general
  · obtain ⟨tag, _, named⟩ := List.mem_filterMap.mp tagged
    unfold superclassOfTag? at named
    split at named
    · cases named
    · dsimp only at named
      unfold Supertype.ofTag at named
      split at named
      · cases named
      · split at named <;> cases named

theorem mem_superinterfaces_element (member : .element target ∈ superinterfaces model id) :
    target ∈ realizedBy model id := by
  rcases List.mem_append.mp member with declared | tagged
  · obtain ⟨found, real, same⟩ := List.mem_map.mp declared
    cases same
    exact real
  · obtain ⟨tag, _, named⟩ := List.mem_filterMap.mp tagged
    unfold interfaceOfTag? at named
    split at named
    · cases named
    · unfold Supertype.ofTag at named
      split at named <;> cases named

theorem mem_attributeTypes {classifier : Classifier} :
    target ∈ attributeTypes classifier ↔
      ∃ member ∈ classifier.attributes, member.type = .element target := by
  rw [attributeTypes, List.mem_filterMap]
  apply exists_congr
  intro member
  apply and_congr_right
  intro _
  cases member.type <;> simp

end Mentioned

/-- A type within a region: if it is an element, then one of the region. -/
def TypeWithin (region : ElementId → Prop) (type : MemberType) : Prop :=
  ∀ id, type = .element id → region id

/-- An operation whose parameters have types within a region. -/
def OperationWithin (region : ElementId → Prop) (operation : Operation) : Prop :=
  ∀ parameter ∈ operation.parameters, TypeWithin region parameter.type

end Blueprint.Php

namespace Blueprint.Model.AgreesFrom

open Php

variable {core region : ElementId → Prop} {model other : Model}
  (agrees : AgreesFrom core region model other) {id : ElementId}

include agrees

/-! ### Names -/

theorem namespaceOf (inside : region id) : namespaceOf other id = namespaceOf model id := by
  rw [Php.namespaceOf, Php.namespaceOf, agrees.packagePath inside]

theorem qualifiedName (inside : region id) : qualifiedName other id = qualifiedName model id := by
  rw [Php.qualifiedName, Php.qualifiedName, agrees.namespaceOf inside, agrees.nameOf inside]

/-! ### Supertypes and traits -/

section Element

variable (inside : core id)

include inside

theorem generalizedBy : generalizedBy other id = generalizedBy model id := by
  apply agrees.filterMap_relationships inside
  intro relationship elsewhere
  cases relationship with
  | generalization source target =>
      have other : source ≠ id := by simpa [Relationship.leaves, Relationship.source?] using elsewhere
      simp only [if_neg other]
  | _ => rfl

theorem realizedBy : realizedBy other id = realizedBy model id := by
  apply agrees.filterMap_relationships inside
  intro relationship elsewhere
  cases relationship with
  | realization source target =>
      have other : source ≠ id := by simpa [Relationship.leaves, Relationship.source?] using elsewhere
      simp only [if_neg other]
  | _ => rfl

theorem tagsOf : tagsOf other id = tagsOf model id := by
  rw [Php.tagsOf, Php.tagsOf, agrees.classifier? (agrees.within id inside)]

theorem superclasses : superclasses other id = superclasses model id := by
  rw [Php.superclasses, Php.superclasses, agrees.generalizedBy inside, agrees.tagsOf inside]

theorem superinterfaces : superinterfaces other id = superinterfaces model id := by
  rw [Php.superinterfaces, Php.superinterfaces, agrees.realizedBy inside, agrees.tagsOf inside]

theorem parentClass? : parentClass? other id = parentClass? model id := by
  rw [Php.parentClass?, Php.parentClass?, agrees.superclasses inside]
  cases parents : Php.superclasses model id with
  | nil => rfl
  | cons parent rest =>
      cases parent with
      | tagged name => rfl
      | element target =>
          have member : Supertype.element target ∈ Php.superclasses model id := by
            rw [parents]
            exact List.mem_cons_self
          have within : region target :=
            agrees.mentioned inside (mentions_generalizedBy (mem_superclasses_element member))
          simp only [List.head?_cons, Option.bind_some, Supertype.element?, Option.filter_some,
            agrees.isClass within]

theorem interfacesOf : interfacesOf other id = interfacesOf model id := by
  rw [Php.interfacesOf, Php.interfacesOf, agrees.realizedBy inside]
  apply List.filter_congr
  intro target member
  exact agrees.isInterface (agrees.mentioned inside (mentions_realizedBy member))

theorem traitsOf : traitsOf other id = traitsOf model id := by
  refine (agrees.filterMap_relationships inside ?_).trans ?_
  · intro relationship elsewhere
    cases relationship with
    | dependency source target mapping? =>
        have other : source ≠ id := by simpa [Relationship.leaves, Relationship.source?] using elsewhere
        simp only [other, false_and, if_false]
    | _ => rfl
  apply List.filterMap_congr
  intro relationship declared
  cases relationship with
  | dependency source target mapping? =>
      by_cases same : source = id
      · have within : region target := by
          apply agrees.mentioned inside
          exact .directed declared (by rw [← same]; rfl) rfl
        simp only [agrees.isClass within]
      · simp only [same, false_and]
  | _ => rfl

/-- Supertypes that an element mentions are named alike. -/
theorem supertypeNames (parents : List Supertype)
    (mentioned : ∀ target, .element target ∈ parents → model.Mentions id target) :
    parents.map (Supertype.name other) = parents.map (Supertype.name model) := by
  apply List.map_congr_left
  intro parent member
  cases parent with
  | element target => exact agrees.nameOf (agrees.mentioned inside (mentioned target member))
  | tagged name => rfl

theorem qualifiedNames (targets : List ElementId)
    (mentioned : ∀ target ∈ targets, model.Mentions id target) :
    targets.map (Php.qualifiedName other) = targets.map (Php.qualifiedName model) := by
  apply List.map_congr_left
  intro target member
  exact agrees.qualifiedName (agrees.mentioned inside (mentioned target member))

/-! ### Operations and imports -/

end Element

theorem operationWithin {classifier : Classifier} {operation : Operation} (inside : region id)
    (found : model.classifier? id = some classifier) (declared : operation ∈ classifier.operations) :
    OperationWithin region operation := fun _ taken target typed =>
  agrees.closed id target inside (.parameterType found declared taken typed)

theorem operationTypes {operation : Operation} (within : OperationWithin region operation) :
    operationTypes other operation = operationTypes model operation := by
  rw [Php.operationTypes, Php.operationTypes]
  apply List.filterMap_congr
  intro parameter member
  have taken : parameter ∈ operation.parameters := by
    rcases List.mem_append.mp member with argument | result
    · exact List.mem_of_mem_filter argument
    · exact List.mem_of_find?_eq_some (Option.mem_toList.mp result)
  cases typed : parameter.type with
  | element target =>
      have same := agrees.qualifiedName (within parameter taken target typed)
      simp only [same]
  | untyped => rfl
  | primitive name => rfl

section Element

variable (inside : core id)

include inside

theorem signatureTypes : signatureTypes other id = signatureTypes model id := by
  rw [Php.signatureTypes, Php.signatureTypes, agrees.interfacesOf inside]
  apply List.flatMap_congr
  intro owner member
  have within : region owner := by
    rcases List.mem_cons.mp member with rfl | realized
    · exact agrees.within _ inside
    · exact agrees.mentioned inside (mentions_realizedBy (List.mem_of_mem_filter realized))
  rw [agrees.classifier? within]
  cases found : model.classifier? owner with
  | none => rfl
  | some classifier =>
      apply List.flatMap_congr
      intro operation declared
      exact agrees.operationTypes (agrees.operationWithin within found declared)

theorem useCaseStereotypes : useCaseStereotypes other id = useCaseStereotypes model id := by
  rw [Php.useCaseStereotypes, Php.useCaseStereotypes, agrees.owned inside]
  apply List.filterMap_congr
  intro child listed
  rw [agrees.content (agrees.mentioned inside (.owned listed))]

/-- The stereotype of an owned use case is reached in two steps. -/
theorem useCaseStereotypes_within {target : ElementId}
    (member : target ∈ Php.useCaseStereotypes model id) : region target := by
  obtain ⟨child, listed, named⟩ := List.mem_filterMap.mp member
  cases found : model.element? child with
  | none =>
      rw [found] at named
      cases named
  | some element =>
      rw [found, Option.map_some] at named
      cases content : element.content with
      | useCase stereotype? =>
          rw [content] at named
          dsimp only at named
          rw [named] at content
          exact agrees.mentioned (agrees.nested id child inside listed) (.stereotype found content)
      | _ =>
          rw [content] at named
          cases named

theorem importCandidates : importCandidates other id = importCandidates model id := by
  have attributes :
      ((model.classifier? id).map attributeTypes |>.getD []).map (Php.qualifiedName other) =
        ((model.classifier? id).map attributeTypes |>.getD []).map (Php.qualifiedName model) := by
    cases found : model.classifier? id with
    | none => rfl
    | some classifier =>
        apply agrees.qualifiedNames inside
        intro target typed
        obtain ⟨member, declared, type⟩ := mem_attributeTypes.mp typed
        exact .attributeType found declared type
  have traits := agrees.qualifiedNames inside
    ((Php.traitsOf model id).map TraitUse.target) (by
      intro target member
      obtain ⟨use, used, rfl⟩ := List.mem_map.mp member
      exact mentions_traitsOf used)
  have parents := agrees.qualifiedNames inside
    ((Php.superclasses model id).filterMap Supertype.element?) (by
      intro target member
      obtain ⟨parent, declared, same⟩ := List.mem_filterMap.mp member
      cases parent <;> cases same
      exact mentions_generalizedBy (mem_superclasses_element declared))
  have interfaces := agrees.qualifiedNames inside
    ((Php.superinterfaces model id).filterMap Supertype.element?) (by
      intro target member
      obtain ⟨parent, declared, same⟩ := List.mem_filterMap.mp member
      cases parent <;> cases same
      exact mentions_realizedBy (mem_superinterfaces_element declared))
  have stereotypes : (Php.useCaseStereotypes model id).map (Php.qualifiedName other) =
      (Php.useCaseStereotypes model id).map (Php.qualifiedName model) := by
    apply List.map_congr_left
    intro target member
    exact agrees.qualifiedName (agrees.useCaseStereotypes_within inside member)
  simp only [Php.importCandidates, agrees.classifier? (agrees.within id inside), agrees.traitsOf inside,
    agrees.superclasses inside, agrees.superinterfaces inside, agrees.signatureTypes inside,
    agrees.useCaseStereotypes inside, attributes, traits, parents, interfaces, stereotypes]

theorem importsOf (namespaceName : String) :
    importsOf other id namespaceName = importsOf model id namespaceName := by
  rw [Php.importsOf, Php.importsOf, agrees.importCandidates inside]

/-! ### Operations that a class gets -/

theorem interfaceStubs : interfaceStubs other id = interfaceStubs model id := by
  rw [Php.interfaceStubs, Php.interfaceStubs, agrees.classifier? (agrees.within id inside), agrees.interfacesOf inside]
  cases model.classifier? id with
  | none => rfl
  | some owner =>
      have required : ((Php.interfacesOf model id).flatMap fun target =>
            ((other.classifier? target).map Classifier.operations).getD []) =
          (Php.interfacesOf model id).flatMap fun target =>
            ((model.classifier? target).map Classifier.operations).getD [] := by
        apply List.flatMap_congr
        intro target member
        have within := agrees.mentioned inside (mentions_realizedBy (List.mem_of_mem_filter member))
        rw [agrees.classifier? within]
      simp only [required]

theorem parentClass?_within {parent : ElementId} (isParent : Php.parentClass? model id = some parent) :
    region parent := by
  unfold Php.parentClass? at isParent
  obtain ⟨isParent, _⟩ := Option.filter_eq_some_iff.mp isParent
  obtain ⟨supertype, first, same⟩ := Option.bind_eq_some_iff.mp isParent
  cases supertype <;> cases same
  exact agrees.mentioned inside
    (mentions_generalizedBy (mem_superclasses_element (List.mem_of_head? first)))

theorem abstractOverrides : abstractOverrides other id = abstractOverrides model id := by
  rw [Php.abstractOverrides, Php.abstractOverrides, agrees.classifier? (agrees.within id inside), agrees.parentClass? inside]
  cases isParent : Php.parentClass? model id with
  | none => rfl
  | some parent =>
      rw [Option.bind_some, Option.bind_some,
        agrees.classifier? (agrees.parentClass?_within inside isParent)]

/-- The operations that interfaces require have types within the region. -/
theorem interfaceStubs_within {operation : Operation} (member : operation ∈ Php.interfaceStubs model id) :
    OperationWithin region operation := by
  obtain ⟨_, target, data, required, _, real, found, declared, _, rfl⟩ := mem_interfaceStubs member
  have within := agrees.mentioned inside (mentions_realizedBy (List.mem_of_mem_filter real))
  have stub : OperationWithin region required := agrees.operationWithin within found declared
  exact stub

/-- The operations that a superclass leaves abstract have types within the region. -/
theorem abstractOverrides_within {operation : Operation}
    (member : operation ∈ Php.abstractOverrides model id) : OperationWithin region operation := by
  obtain ⟨_, parent, data, required, _, isParent, found, declared, _, _, rfl⟩ := mem_abstractOverrides member
  have within := agrees.parentClass?_within inside isParent
  have override : OperationWithin region required := agrees.operationWithin within found declared
  exact override

end Element

end Blueprint.Model.AgreesFrom
