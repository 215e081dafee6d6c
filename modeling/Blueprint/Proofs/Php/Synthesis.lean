/-
Module: Blueprint.Proofs.Php.Synthesis
Purpose: The operations that a class gets without declaring them, told by where they come from: accessors
  from its attributes, methods from the tags of its stereotype, placeholders from the operations of its
  interfaces and of its superclass. None of them has the name of an operation that the class declares, and
  methods of tags come once each.
Main exports: mem_accessors, gathered_stereotypeMethods, mem_stereotypeMethods, mem_interfaceStubs,
  mem_abstractOverrides, ClassMethod.operation?, mem_classMethods_operation
-/
import Blueprint.Php.Declaration
import Mathlib.Data.List.Nodup

namespace Blueprint.Php

variable {model : Model} {owner : Classifier} {operation : Operation} {id : ElementId}

theorem mem_accessors {member : Attribute} : operation ∈ accessors owner member ↔
    hasAccessors member = true ∧ (operation = setter member ∨ operation = getter member) ∧
      owner.declares operation.name = false := by
  unfold accessors
  split
  · rename_i has
    simp [has]
  · rename_i lacks
    simp [lacks]

/-! ### Methods of tags -/

/-- What holds of the methods gathered so far when each of `all` is added unless its name is taken. -/
structure Gathered (owner : Classifier) (all : List StereotypeMethod) (methods : List Operation) :
    Prop where
  source : ∀ operation ∈ methods, ∃ method ∈ all, operation = method.operation owner
  undeclared : ∀ operation ∈ methods, owner.declares operation.name = false
  distinct : (methods.map Operation.name).Nodup

theorem gathered_foldl {all found : List StereotypeMethod} {methods : List Operation}
    (gathered : Gathered owner all methods) (within : found ⊆ all) :
    Gathered owner all (found.foldl
      (fun methods method =>
        if owner.declares method.name || methods.any (·.name == method.name) then methods
        else methods ++ [method.operation owner])
      methods) := by
  induction found generalizing methods with
  | nil => exact gathered
  | cons method found ih =>
      obtain ⟨known, within⟩ := List.cons_subset.mp within
      rw [List.foldl_cons]
      refine ih ?_ within
      split
      -- a name that is taken leaves what has been gathered as it is
      · exact gathered
      · rename_i free
        rw [Bool.not_eq_true, Bool.or_eq_false_iff] at free
        obtain ⟨undeclared, fresh⟩ := free
        have new : ∀ earlier ∈ methods, earlier.name ≠ method.name := by
          intro earlier member same
          have taken := List.any_eq_false.mp fresh earlier member
          exact taken (beq_iff_eq.mpr same)
        constructor
        case source =>
          intro operation member
          rcases List.mem_append.mp member with earlier | last
          · exact gathered.source operation earlier
          · exact ⟨method, known, List.mem_singleton.mp last⟩
        case undeclared =>
          intro operation member
          rcases List.mem_append.mp member with earlier | last
          · exact gathered.undeclared operation earlier
          · rw [List.mem_singleton.mp last]
            exact undeclared
        case distinct =>
          rw [List.map_append]
          apply List.nodup_append.mpr
          refine ⟨gathered.distinct, List.nodup_singleton _, ?_⟩
          intro first taken second last same
          obtain ⟨earlier, member, rfl⟩ := List.mem_map.mp taken
          rw [List.map_singleton, List.mem_singleton] at last
          exact new earlier member (same.trans last)

theorem gathered_stereotypeMethods (owner : Classifier) :
    Gathered owner (owner.tags.filterMap stereotypeMethod?) (stereotypeMethods owner) := by
  refine gathered_foldl ?_ (List.Subset.refl _)
  constructor
  case source =>
    intro operation none
    cases none
  case undeclared =>
    intro operation none
    cases none
  case distinct => exact List.nodup_nil

/-- A name that a tag calls for is among the methods gathered, or it was taken before. -/
theorem exists_mem_foldl {found : List StereotypeMethod} {methods : List Operation} {name : String}
    (undeclared : owner.declares name = false)
    (called : (∃ method ∈ found, method.name = name) ∨ ∃ earlier ∈ methods, earlier.name = name) :
    ∃ operation ∈ found.foldl
      (fun methods method =>
        if owner.declares method.name || methods.any (·.name == method.name) then methods
        else methods ++ [method.operation owner])
      methods, operation.name = name := by
  induction found generalizing methods with
  | nil => simpa using called
  | cons method found ih =>
      rw [List.foldl_cons]
      apply ih
      rcases called with ⟨caller, member, named⟩ | ⟨earlier, member, named⟩
      · rcases List.mem_cons.mp member with rfl | later
        · right
          split
          · rename_i taken
            rw [named, undeclared, Bool.false_or, List.any_eq_true] at taken
            obtain ⟨earlier, member, same⟩ := taken
            exact ⟨earlier, member, beq_iff_eq.mp same⟩
          · exact ⟨_, List.mem_append_right _ List.mem_cons_self, named⟩
        · exact .inl ⟨caller, later, named⟩
      · right
        split
        · exact ⟨earlier, member, named⟩
        · exact ⟨earlier, List.mem_append_left _ member, named⟩

/-- The name of the method that a tag calls for tells which method it is. -/
theorem stereotypeMethod_ext {tag other : String} {method second : StereotypeMethod}
    (called : stereotypeMethod? tag = some method) (called' : stereotypeMethod? other = some second)
    (same : method.name = second.name) : method = second := by
  unfold stereotypeMethod? at called called'
  split at called <;> split at called' <;> cases called <;> cases called' <;>
    first | rfl | exact absurd same (by decide)

/-- What the tags call for and the owner does not declare is what is gathered. -/
theorem mem_stereotypeMethods : operation ∈ stereotypeMethods owner ↔
    ∃ tag ∈ owner.tags, ∃ method, stereotypeMethod? tag = some method ∧
      owner.declares method.name = false ∧ operation = method.operation owner := by
  have gathered := gathered_stereotypeMethods owner
  constructor
  · intro member
    obtain ⟨method, called, rfl⟩ := gathered.source operation member
    obtain ⟨tag, known, called⟩ := List.mem_filterMap.mp called
    exact ⟨tag, known, method, called, gathered.undeclared _ member, rfl⟩
  · rintro ⟨tag, known, method, called, undeclared, rfl⟩
    have source := List.mem_filterMap.mpr ⟨tag, known, called⟩
    obtain ⟨added, member, named⟩ : ∃ operation ∈ stereotypeMethods owner, operation.name = method.name :=
      exists_mem_foldl undeclared (.inl ⟨method, source, rfl⟩)
    obtain ⟨other, called', rfl⟩ := gathered.source added member
    obtain ⟨_, -, called'⟩ := List.mem_filterMap.mp called'
    rwa [stereotypeMethod_ext called' called named] at member

/-! ### Placeholders -/

theorem mem_interfaceStubs (stub : operation ∈ interfaceStubs model id) :
    ∃ owner target data required, model.classifier? id = some owner ∧
      target ∈ interfacesOf model id ∧ model.classifier? target = some data ∧
      required ∈ data.operations ∧ owner.declares required.name = false ∧
      operation = concrete required := by
  unfold interfaceStubs at stub
  split at stub
  · cases stub
  · rename_i owner isClassifier
    obtain ⟨required, member, rfl⟩ := List.mem_map.mp stub
    obtain ⟨declared, undeclared⟩ := List.mem_filter.mp member
    obtain ⟨target, real, declared⟩ := List.mem_flatMap.mp declared
    cases found : model.classifier? target with
    | none =>
        rw [found] at declared
        cases declared
    | some data =>
        rw [found] at declared
        exact ⟨owner, target, data, required, isClassifier, real, found, declared,
          by simpa using undeclared, rfl⟩

theorem mem_abstractOverrides (override : operation ∈ abstractOverrides model id) :
    ∃ owner parent data required, model.classifier? id = some owner ∧
      parentClass? model id = some parent ∧ model.classifier? parent = some data ∧
      required ∈ data.operations ∧ required.isAbstract = true ∧ owner.declares required.name = false ∧
      operation = concrete required := by
  unfold abstractOverrides at override
  split at override
  · rename_i owner data isClassifier found
    obtain ⟨required, member, rfl⟩ := List.mem_map.mp override
    obtain ⟨declared, chosen⟩ := List.mem_filter.mp member
    obtain ⟨parent, isParent, found⟩ := Option.bind_eq_some_iff.mp found
    rw [Bool.and_eq_true] at chosen
    exact ⟨owner, parent, data, required, isClassifier, isParent, found, declared, chosen.1,
      by simpa using chosen.2, rfl⟩
  · cases override

section Required

variable {data : Classifier} (isClassifier : model.classifier? id = some owner)
  (undeclared : owner.declares operation.name = false) (declared : operation ∈ data.operations)

include isClassifier undeclared declared

theorem concrete_mem_interfaceStubs {target : ElementId} (real : target ∈ interfacesOf model id)
    (found : model.classifier? target = some data) : concrete operation ∈ interfaceStubs model id := by
  rw [interfaceStubs, isClassifier]
  apply List.mem_map_of_mem
  apply List.mem_filter.mpr
  refine ⟨List.mem_flatMap.mpr ⟨target, real, ?_⟩, by simp [undeclared]⟩
  rw [found]
  exact declared

theorem concrete_mem_abstractOverrides {parent : ElementId} (isParent : parentClass? model id = some parent)
    (found : model.classifier? parent = some data) (unimplemented : operation.isAbstract = true) :
    concrete operation ∈ abstractOverrides model id := by
  rw [abstractOverrides, isClassifier, isParent, Option.bind_some, found]
  apply List.mem_map_of_mem
  exact List.mem_filter.mpr ⟨declared, by simp [undeclared, unimplemented]⟩

end Required

/-! ### Methods of a class -/

/-- The operation that a method is written from; a default constructor has none. -/
def ClassMethod.operation? : ClassMethod → Option Operation
  | defaultConstructor => none
  | factory operation | ordinary operation => some operation

/-- An operation of a class is declared, or it comes from an attribute, a tag, an interface or the
    superclass. -/
theorem mem_classMethods_operation {rendering : Rendering} {subject : Subject} {method : ClassMethod}
    (member : method ∈ rendering.classMethods subject) (written : method.operation? = some operation) :
    operation ∈ subject.classifier.operations ∨
      (∃ attr ∈ subject.classifier.attributes, operation ∈ accessors subject.classifier attr) ∨
      operation ∈ stereotypeMethods subject.classifier ∨
      operation ∈ interfaceStubs rendering.model subject.id ∨
      operation ∈ abstractOverrides rendering.model subject.id := by
  unfold Rendering.classMethods Rendering.synthesized at member
  simp only [List.mem_append, List.mem_map] at member
  rcases member with (constructed | ⟨found, declared, rfl⟩) | ⟨found, source, rfl⟩
  · split at constructed
    · rw [List.mem_singleton.mp constructed] at written
      cases written
    · cases constructed
  · cases written
    exact .inl (List.mem_of_mem_filter declared)
  · cases written
    rcases source with (((accessor | tagged) | stub) | declared) | override
    · exact .inr (.inl (List.mem_flatMap.mp accessor))
    · exact .inr (.inr (.inl tagged))
    · exact .inr (.inr (.inr (.inl stub)))
    · exact .inl (List.mem_of_mem_filter declared)
    · exact .inr (.inr (.inr (.inr override)))

end Blueprint.Php
