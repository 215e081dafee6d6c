/-
Module: Blueprint.Proofs.Php.Completeness
Purpose: The methods of a class are complete. Whatever an interface that the class realizes, or the class that
  it extends, leaves to be implemented is a method of the class; every operation that the class declares is
  one method, as it stands or as a factory; and each of the other methods has a reason: the constructor that
  the class needs, an accessor, a method of a tag, or a placeholder for an operation that it has to have.
Main exports: Requires, Warranted, mem_classMethods_iff, filter_declared_classMethods, CompleteClass,
  class_is_complete
-/
import Blueprint.Proofs.Php.Factory
import Blueprint.Proofs.Php.MethodNames

namespace Blueprint.Php

open Fragment

variable {model : Model} {rendering : Rendering} {subject : Subject} {nested : Fragment}
  {operation : Operation} {id : ElementId}

/-! ### What a class has to have -/

/-- An operation that a class has to have. It is one of an interface that the class realizes, or an abstract
    one of the class that is named after `extends`. -/
inductive Requires (model : Model) (id : ElementId) (operation : Operation) : Prop where
  | realized {target : ElementId} {element : Element} {data : Classifier}
      (realizes : .realization id target ∈ model.relationships)
      (place : model.element? target = some element)
      (isInterface : element.content = .classifier .interface data)
      (declared : operation ∈ data.operations)
  | extended {parent : ElementId} {element : Element} {data : Classifier}
      (named : (clausesOf model id .classForm).extended = [.element parent])
      (place : model.element? parent = some element)
      (isClass : element.content = .classifier .classType data)
      (declared : operation ∈ data.operations) (unimplemented : operation.isAbstract = true)

theorem mem_interfacesOf_iff {target : ElementId} : target ∈ interfacesOf model id ↔
    .realization id target ∈ model.relationships ∧ model.isInterface target = true := by
  have realized : target ∈ realizedBy model id ↔ .realization id target ∈ model.relationships := by
    rw [realizedBy, List.mem_filterMap]
    constructor
    · rintro ⟨relationship, member, directed⟩
      split at directed
      · split at directed
        · rename_i source
          cases directed
          exact source ▸ member
        · cases directed
      · cases directed
    · intro member
      exact ⟨_, member, if_pos rfl⟩
  rw [interfacesOf, List.mem_filter, realized]

theorem parentClass?_eq_some_iff {parent : ElementId} : parentClass? model id = some parent ↔
    (clausesOf model id .classForm).extended = [.element parent] ∧ model.isClass parent = true := by
  have first : (superclasses model id).head?.bind Supertype.element? = some parent ↔
      (clausesOf model id .classForm).extended = [.element parent] := by
    rw [clausesOf]
    cases (superclasses model id).head? with
    | none => simp
    | some supertype => cases supertype <;> simp [Supertype.element?]
  rw [parentClass?, Option.filter_eq_some_iff, first]

/-- An element of a kind of classifier is a classifier of that kind. -/
theorem exists_content_iff {kind : ClassifierKind} {data : Classifier} :
    (∃ element, model.element? id = some element ∧ element.content = .classifier kind data) ↔
      (model.element? id).any (·.content.kind? == some kind) = true ∧ model.classifier? id = some data := by
  rw [Model.classifier?]
  cases model.element? id with
  | none => simp
  | some element => cases content : element.content <;> simp [content, Content.kind?, Content.classifier?]

/-- The placeholders of a class are for what it has to have and does not declare. -/
theorem mem_inheritedOperations_iff (found : model.classifier? id = some owner) :
    operation ∈ inheritedOperations model id ↔
      ∃ required, Requires model id required ∧ owner.declares required.name = false ∧
        operation = concrete required := by
  constructor
  · intro member
    rcases List.mem_append.mp member with stub | override
    · obtain ⟨holder, target, data, required, holds, real, classifier, declared, undeclared, rfl⟩ :=
        mem_interfaceStubs stub
      obtain ⟨realizes, isInterface⟩ := mem_interfacesOf_iff.mp real
      obtain ⟨element, place, content⟩ := exists_content_iff.mpr ⟨isInterface, classifier⟩
      rw [found] at holds
      cases holds
      exact ⟨required, .realized realizes place content declared, undeclared, rfl⟩
    · obtain ⟨holder, parent, data, required, holds, isParent, classifier, declared, unimplemented,
        undeclared, rfl⟩ := mem_abstractOverrides override
      obtain ⟨named, isClass⟩ := parentClass?_eq_some_iff.mp isParent
      obtain ⟨element, place, content⟩ := exists_content_iff.mpr ⟨isClass, classifier⟩
      rw [found] at holds
      cases holds
      exact ⟨required, .extended named place content declared unimplemented, undeclared, rfl⟩
  · rintro ⟨required, requires, undeclared, rfl⟩
    cases requires with
    | realized realizes place isInterface declared =>
        obtain ⟨ofKind, classifier⟩ := exists_content_iff.mp ⟨_, place, isInterface⟩
        exact List.mem_append_left _ (concrete_mem_interfaceStubs found undeclared declared
          (mem_interfacesOf_iff.mpr ⟨realizes, ofKind⟩) classifier)
    | extended named place isClass declared unimplemented =>
        obtain ⟨ofKind, classifier⟩ := exists_content_iff.mp ⟨_, place, isClass⟩
        exact List.mem_append_right _ (concrete_mem_abstractOverrides found undeclared declared
          (parentClass?_eq_some_iff.mpr ⟨named, ofKind⟩) classifier unimplemented)

/-! ### Why a class has a method -/

/-- The reasons for which a class has a method. What it does not declare is never called like what it does. -/
inductive Warranted (rendering : Rendering) (subject : Subject) : ClassMethod → Prop where
  | construction (named : subject.element.name ≠ "") (root : superclasses rendering.model subject.id = [])
      (undeclared : subject.classifier.declares "__construct" = false) :
      Warranted rendering subject .defaultConstructor
  | factory {operation : Operation} (declared : operation ∈ subject.classifier.operations)
      (creates : isFactory operation = true) : Warranted rendering subject (.factory operation)
  | own {operation : Operation} (declared : operation ∈ subject.classifier.operations)
      (plain : isFactory operation = false) : Warranted rendering subject (.ordinary operation)
  | accessor {member : Attribute} {operation : Operation} (declared : member ∈ subject.classifier.attributes)
      (named : member.name ≠ "") (isPrivate : member.visibility = .priv)
      (stored : member.isDerived = false) (kind : operation = setter member ∨ operation = getter member)
      (undeclared : subject.classifier.declares operation.name = false) :
      Warranted rendering subject (.ordinary operation)
  | tagged {tag : String} {method : StereotypeMethod} (known : tag ∈ subject.classifier.tags)
      (called : stereotypeMethod? tag = some method)
      (undeclared : subject.classifier.declares method.name = false) :
      Warranted rendering subject (.ordinary (method.operation subject.classifier))
  | placeholder {required : Operation} (requires : Requires rendering.model subject.id required)
      (undeclared : subject.classifier.declares required.name = false) :
      Warranted rendering subject (.ordinary (concrete required))

theorem needsConstructor_iff : rendering.needsConstructor subject = true ↔
    subject.element.name ≠ "" ∧ superclasses rendering.model subject.id = [] ∧
      subject.classifier.declares "__construct" = false := by
  simp [Rendering.needsConstructor, and_assoc]

theorem hasAccessors_iff {member : Attribute} : hasAccessors member = true ↔
    member.name ≠ "" ∧ member.visibility = .priv ∧ member.isDerived = false := by
  simp [hasAccessors, and_assoc]

/-! ### The passes over the methods -/

theorem defaultConstructor_mem_classMethods_iff : .defaultConstructor ∈ rendering.classMethods subject ↔
    rendering.needsConstructor subject = true := by
  rw [Rendering.classMethods]
  split <;> simp [*]

theorem factory_mem_classMethods_iff : .factory operation ∈ rendering.classMethods subject ↔
    operation ∈ subject.classifier.operations ∧ isFactory operation = true := by
  rw [Rendering.classMethods]
  split <;> simp

/-- An ordinary method comes from one of the passes that add what is not declared, or is declared. -/
theorem ordinary_mem_classMethods_iff : .ordinary operation ∈ rendering.classMethods subject ↔
    (∃ member ∈ subject.classifier.attributes, operation ∈ accessors subject.classifier member) ∨
      operation ∈ stereotypeMethods subject.classifier ∨
      operation ∈ inheritedOperations rendering.model subject.id ∨
      operation ∈ subject.classifier.operations ∧ isFactory operation = false := by
  have constructed : .ordinary operation ∉
      (if rendering.needsConstructor subject then [ClassMethod.defaultConstructor] else []) := by
    split <;> simp
  simp only [Rendering.classMethods, Rendering.synthesized, inheritedOperations, List.mem_append,
    List.mem_map, List.mem_flatMap, List.mem_filter, constructed, ClassMethod.ordinary.injEq,
    exists_eq_right, Bool.not_eq_true', reduceCtorEq, and_false, exists_false, false_or]
  grind

/-- Methods of declared operations all have declared names. -/
theorem filter_declares_of_declared {kind : Operation → ClassMethod}
    (named : ∀ operation, (kind operation).name = operation.name) (chosen : Operation → Bool) :
    ((subject.classifier.operations.filter chosen).map kind).filter
        (fun method => subject.classifier.declares method.name) =
      (subject.classifier.operations.filter chosen).map kind := by
  apply List.filter_eq_self.mpr
  intro method member
  obtain ⟨operation, taken, rfl⟩ := List.mem_map.mp member
  rw [named]
  exact List.any_eq_true.mpr ⟨operation, List.mem_of_mem_filter taken, beq_self_eq_true _⟩

theorem filter_declares_of_undeclared {operations : List Operation}
    (undeclared : ∀ operation ∈ operations, subject.classifier.declares operation.name = false) :
    (operations.map ClassMethod.ordinary).filter
      (fun method => subject.classifier.declares method.name) = [] := by
  apply List.filter_eq_nil_iff.mpr
  intro method member
  obtain ⟨operation, added, rfl⟩ := List.mem_map.mp member
  rw [ClassMethod.name, undeclared operation added]
  exact Bool.false_ne_true

section Real

variable (real : rendering.model.classifier? subject.id = some subject.classifier)

include real

/-- A class has the methods for which there is a reason, and no others. -/
theorem mem_classMethods_iff {method : ClassMethod} :
    method ∈ rendering.classMethods subject ↔ Warranted rendering subject method := by
  cases method with
  | defaultConstructor =>
      rw [defaultConstructor_mem_classMethods_iff, needsConstructor_iff]
      constructor
      · rintro ⟨named, root, undeclared⟩
        exact .construction named root undeclared
      · rintro ⟨named, root, undeclared⟩
        exact ⟨named, root, undeclared⟩
  | factory operation =>
      rw [factory_mem_classMethods_iff]
      constructor
      · rintro ⟨declared, creates⟩
        exact .factory declared creates
      · intro warranted
        cases warranted with
        | factory declared creates => exact ⟨declared, creates⟩
  | ordinary operation =>
      rw [ordinary_mem_classMethods_iff, mem_stereotypeMethods, mem_inheritedOperations_iff real]
      constructor
      · rintro (⟨member, declared, accessor⟩ | ⟨tag, known, method, called, undeclared, rfl⟩ |
          ⟨required, requires, undeclared, rfl⟩ | ⟨declared, plain⟩)
        · obtain ⟨has, kind, undeclared⟩ := mem_accessors.mp accessor
          obtain ⟨named, isPrivate, stored⟩ := hasAccessors_iff.mp has
          exact .accessor declared named isPrivate stored kind undeclared
        · exact .tagged known called undeclared
        · exact .placeholder requires undeclared
        · exact .own declared plain
      · intro warranted
        cases warranted with
        | own declared plain => exact .inr (.inr (.inr ⟨declared, plain⟩))
        | accessor declared named isPrivate stored kind undeclared =>
            have has := hasAccessors_iff.mpr ⟨named, isPrivate, stored⟩
            exact .inl ⟨_, declared, mem_accessors.mpr ⟨has, kind, undeclared⟩⟩
        | tagged known called undeclared => exact .inr (.inl ⟨_, known, _, called, undeclared, rfl⟩)
        | placeholder requires undeclared => exact .inr (.inr (.inl ⟨_, requires, undeclared, rfl⟩))

/-- The methods with the name of a declared operation are the declared operations, each in its own place:
    the factories in their order, and then the others in theirs. -/
theorem filter_declared_classMethods :
    (rendering.classMethods subject).filter (fun method => subject.classifier.declares method.name) =
      (subject.classifier.operations.filter isFactory).map .factory ++
        (subject.classifier.operations.filter (!isFactory ·)).map .ordinary := by
  have constructed :
      (if rendering.needsConstructor subject then [ClassMethod.defaultConstructor] else []).filter
        (fun method => subject.classifier.declares method.name) = [] := by
    split
    · rename_i needs
      obtain ⟨-, -, undeclared⟩ := needsConstructor_iff.mp needs
      rw [List.filter_cons, ClassMethod.name, undeclared]
      rfl
    · rfl
  have inherited := undeclared_of_mem_inherited real
  have accessors := filter_declares_of_undeclared (undeclared_of_mem_accessorsOf subject.classifier)
  have tagged := filter_declares_of_undeclared
    (gathered_stereotypeMethods subject.classifier).undeclared
  have stubs := filter_declares_of_undeclared fun operation stub =>
    inherited operation (List.mem_append_left _ stub)
  have overrides := filter_declares_of_undeclared fun operation override =>
    inherited operation (List.mem_append_right _ override)
  have factories := @filter_declares_of_declared subject .factory (fun _ => rfl) isFactory
  have others := @filter_declares_of_declared subject .ordinary (fun _ => rfl) (!isFactory ·)
  rw [accessorsOf] at accessors
  rw [Rendering.classMethods, Rendering.synthesized]
  simp only [List.map_append, List.filter_append, constructed, accessors, tagged, stubs, overrides,
    factories, others, List.nil_append, List.append_nil]

end Real

/-! ### Complete classes -/

/-- The declaration of a class, around the nested declarations, holds all that the class has to have and
    all that it declares, and nothing else without a reason. -/
structure CompleteClass (rendering : Rendering) (subject : Subject) (nested : Fragment) : Prop where
  /-- All methods stand between the fields and the nested declarations. -/
  layout : rendering.classMembers subject nested =
    rendering.traitUses subject ++ .blank ++ rendering.attributeFields subject ++
      rendering.endFields subject ++
      .concat ((rendering.classMethods subject).map fun method =>
        spaced (rendering.classMethod subject method)) ++
      nested
  /-- What the class has to have, it has, declared or not. -/
  required : ∀ operation, Requires rendering.model subject.id operation → operation.name ≠ "" →
    ∃ method ∈ rendering.classMethods subject, method.name = operation.name ∧
      HoldsFunction operation.name (rendering.classMethod subject method) ∧
      Within (rendering.classMethod subject method) (rendering.classDeclaration subject nested)
  /-- What the class declares is written once, and nothing else is called like it. -/
  declared :
    (rendering.classMethods subject).filter (fun method => subject.classifier.declares method.name) =
      (subject.classifier.operations.filter isFactory).map .factory ++
        (subject.classifier.operations.filter (!isFactory ·)).map .ordinary
  /-- A factory is written with its statement as the body. -/
  factories : ∀ (unit : SourceUnit) operation, '\n' ∉ unit.indentUnit.toList →
    unit.emit (rendering.classMethod subject (.factory operation)) =
      unit.emit (rendering.operationMethod subject.element.name
        (withFactoryBody unit.indentUnit operation) {})
  /-- Any other operation is written as it stands. -/
  others : ∀ operation, rendering.classMethod subject (.ordinary operation) =
    rendering.operationMethod subject.element.name operation {}
  /-- Every method has a reason, and every reason gives a method. -/
  reasons : ∀ method, method ∈ rendering.classMethods subject ↔ Warranted rendering subject method
  /-- What the class has to have and does not declare gets a body. -/
  placeholders : ∀ operation, Requires rendering.model subject.id operation →
    subject.classifier.declares operation.name = false → operation.name ≠ "" →
      ∃ before rest, rendering.classMethod subject (.ordinary (concrete operation)) =
        before ++ .block (rendering.signature subject.element.name (concrete operation) {})
          (.ofText placeholder ++ rest)

/-- A placeholder is a method with a body, which begins with a comment that says so. -/
theorem operationMethod_concrete (owner : String) (called : operation.name ≠ "") :
    ∃ before rest, rendering.operationMethod owner (concrete operation) {} =
      before ++ .block (rendering.signature owner (concrete operation) {})
        (.ofText placeholder ++ rest) := by
  have filled : (concrete operation).name.isEmpty = false := by simpa [concrete] using called
  have bare : givenBody (concrete operation) = .empty := rfl
  rw [Rendering.operationMethod, bare, Rendering.method, filled]
  exact ⟨_, _, rfl⟩

/-- Classes are complete. Wherever a class is declared, its declaration holds a method for each operation of
    the interfaces that it realizes and for each abstract operation of the class that it extends; each
    operation that it declares is one of the methods, a factory with the statement that creates the object,
    any other as it stands; and beyond these a class has the constructor that it needs, the accessors of its
    private attributes and the methods of its tags, and nothing else. -/
theorem class_is_complete (found : Subject.find? rendering.model id = some subject) (depth : Nat) :
    ∃ nested, rendering.declareNested (depth + 1) .classForm id =
        rendering.classDeclaration subject nested ∧
      CompleteClass rendering subject nested := by
  obtain ⟨same, -, real⟩ := eq_of_find? found
  rw [← same] at real
  refine ⟨nestedIn rendering depth .classForm subject.element, declareNested_succ found, ?_⟩
  constructor
  case layout => rfl
  case required =>
    intro operation requires called
    -- a declared operation of the name will do; without one there is the placeholder
    obtain ⟨method, member, named⟩ :
        ∃ method ∈ rendering.classMethods subject, method.name = operation.name := by
      cases undeclared : subject.classifier.declares operation.name with
      | false => exact ⟨_, (mem_classMethods_iff real).mpr (.placeholder requires undeclared), rfl⟩
      | true =>
          obtain ⟨own, declared, same⟩ := List.any_eq_true.mp undeclared
          have named := beq_iff_eq.mp same
          cases kind : isFactory own with
          | true => exact ⟨_, (mem_classMethods_iff real).mpr (.factory declared kind), named⟩
          | false => exact ⟨_, (mem_classMethods_iff real).mpr (.own declared kind), named⟩
    have holds : HoldsFunction method.name (rendering.classMethod subject method) :=
      holdsFunction_classMethod (by rwa [named])
    exact ⟨method, member, named, named ▸ holds, classMethod_within member⟩
  case declared => exact filter_declared_classMethods real
  case factories =>
    intro unit operation single
    exact emit_factoryMethod single rendering subject.element.name operation
  case others =>
    intro operation
    rfl
  case reasons =>
    intro method
    exact mem_classMethods_iff real
  case placeholders =>
    intro operation _ _ called
    exact operationMethod_concrete subject.element.name called

/-- Printers. A printer is a machine, which leaves it to run, and a device, which can be started and stopped.
    It declares how it stops, and a factory. -/
def printing : Model where
  author? := none
  elements := #[
    { id := 0, name := "Printing", parent? := none, owned := [1, 2, 3], content := .model },
    { id := 1, name := "Device", parent? := some 0, content := .classifier .interface device },
    { id := 2, name := "Machine", parent? := some 0, content := .classifier .classType machine },
    { id := 3, name := "Printer", parent? := some 0, content := .classifier .classType printer }]
  relationships := [.realization 3 1, .generalization 3 2]
  keys := []
where
  /-- What can be started and stopped. -/
  device : Classifier :=
    { operations := [{ name := "start" }, { name := "stop" }] }
  /-- What runs in one way or another, and says how. -/
  machine : Classifier :=
    { isAbstract := true
      operations := [{ name := "run", isAbstract := true }, { name := "describe" }] }
  /-- The printer itself. -/
  printer : Classifier :=
    { stereotype? := some "countable"
      attributes := [{ name := "tray", visibility := .priv }]
      operations := [{ name := "createWithTray", parameters := [{ name := "tray" }] }, { name := "stop" }] }

/-- The printer has the factory, the accessors of its tray, a count, a placeholder for its start, its own
    stop, and a placeholder for its run. -/
theorem class_is_complete_printing :
    ∃ printer, Subject.find? printing 3 = some printer ∧
      (renderingIn printing {} "").methodNames printer =
        ["createWithTray", "setTray", "getTray", "count", "start", "stop", "run"] ∧
      ∃ nested, CompleteClass (renderingIn printing {} "") printer nested ∧
        HoldsFunction "start" ((renderingIn printing {} "").classDeclaration printer nested) ∧
        HoldsFunction "run" ((renderingIn printing {} "").classDeclaration printer nested) := by
  let printer : Subject :=
    ⟨3, { id := 3, name := "Printer", parent? := some 0,
          content := .classifier .classType printing.printer },
      printing.printer⟩
  have found : Subject.find? (renderingIn printing {} "").model 3 = some printer := rfl
  obtain ⟨nested, -, complete⟩ := class_is_complete found 0
  have start : Requires printing 3 { name := "start" } :=
    .realized List.mem_cons_self rfl rfl List.mem_cons_self
  have extended : (clausesOf printing 3 .classForm).extended = [.element 2] := by decide +kernel
  have run : Requires printing 3 { name := "run", isAbstract := true } :=
    .extended extended rfl rfl List.mem_cons_self rfl
  have written : ∀ operation, Requires printing 3 operation → operation.name ≠ "" →
      HoldsFunction operation.name ((renderingIn printing {} "").classDeclaration printer nested) := by
    intro operation requires called
    obtain ⟨method, -, -, ⟨before, after, text⟩, within⟩ := complete.required operation requires called
    exact ⟨before, after, text.trans within⟩
  have names : (renderingIn printing {} "").methodNames printer =
      ["createWithTray", "setTray", "getTray", "count", "start", "stop", "run"] := by
    decide +kernel
  have starts := written _ start (by decide)
  have runs := written _ run (by decide)
  exact ⟨printer, found, names, nested, complete, starts, runs⟩

end Blueprint.Php
