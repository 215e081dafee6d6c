/-
Module: Blueprint.Proofs.Php.MethodNames
Purpose: Which methods of a class share a name. The methods come from several sources. What a source adds is
  compared with the operations that the class declares, so none of it has the name of a declared operation;
  but sources are not compared with each other. The names of the methods are distinct exactly when no two
  attributes get one accessor, no two supertypes require one operation, and nothing that a supertype requires
  is an accessor, a method of a tag or the constructor that the class gets.
Main exports: namesOf, Rendering.methodNames, HoldsFunction, AccessorsApart, nodup_accessorNames_iff,
  inheritedOperations, methodNames_perm, MethodsApart, methods_distinct_iff
-/
import Blueprint.Proofs.Php.Signature
import Blueprint.Proofs.Php.Synthesis
import Mathlib.Data.List.Nodup

namespace Blueprint.Php

open Fragment

variable {model : Model} {rendering : Rendering} {subject : Subject} {nested : Fragment}
  {owner : Classifier} {operation : Operation} {operations : List Operation} {member first second : Attribute}
  {id : ElementId} {name : String}

/-! ### Names -/

/-- The names of operations. An operation without a name is left out of a declaration. -/
def namesOf (operations : List Operation) : List String :=
  (operations.map Operation.name).filter (!·.isEmpty)

/-- The names of the methods of a class. -/
def Rendering.methodNames (rendering : Rendering) (subject : Subject) : List String :=
  ((rendering.classMethods subject).map ClassMethod.name).filter (!·.isEmpty)

theorem mem_namesOf :
    name ∈ namesOf operations ↔ (∃ operation ∈ operations, operation.name = name) ∧ name ≠ "" := by
  simp [namesOf]

@[simp] theorem namesOf_append (operations others : List Operation) :
    namesOf (operations ++ others) = namesOf operations ++ namesOf others := by
  rw [namesOf, List.map_append, List.filter_append]
  rfl

theorem mem_methodNames : name ∈ rendering.methodNames subject ↔
    (∃ method ∈ rendering.classMethods subject, method.name = name) ∧ name ≠ "" := by
  simp [Rendering.methodNames]

theorem declares_of_mem_namesOf (declared : name ∈ namesOf owner.operations) :
    owner.declares name = true := by
  obtain ⟨⟨operation, member, rfl⟩, -⟩ := mem_namesOf.mp declared
  exact List.any_eq_true.mpr ⟨operation, member, beq_self_eq_true _⟩

/-- What a class does not declare has none of the declared names. -/
theorem disjoint_declared (undeclared : ∀ operation ∈ operations, owner.declares operation.name = false) :
    (namesOf owner.operations).Disjoint (namesOf operations) := by
  intro name declared added
  have taken := declares_of_mem_namesOf declared
  obtain ⟨⟨operation, member, rfl⟩, -⟩ := mem_namesOf.mp added
  rw [undeclared operation member] at taken
  cases taken

/-! ### Methods in a declaration -/

/-- The fragment holds the word `function` before the name and an opening parenthesis. -/
def HoldsFunction (name : String) (whole : Fragment) : Prop :=
  ∃ before after, Within (ofText (before ++ "function " ++ name ++ "(" ++ after)) whole

theorem holdsFunction_operation {ownerName : String} {whole : Fragment}
    (holds : HoldsSignature rendering ownerName operation whole) : HoldsFunction operation.name whole := by
  obtain ⟨ending, -, text⟩ := holds.text
  obtain ⟨words, signature⟩ := exists_signature rendering ownerName operation
  refine ⟨words, ", ".intercalate (operation.arguments.map rendering.parameter) ++ ")" ++
    rendering.resultDeclaration ownerName operation ++ ending, ?_⟩
  rw [signature] at text
  simp only [String.append_assoc] at text ⊢
  exact text

theorem holdsFunction_classMethod {method : ClassMethod} (called : method.name ≠ "") :
    HoldsFunction method.name (rendering.classMethod subject method) := by
  cases method with
  | defaultConstructor =>
      obtain ⟨before, header⟩ := exists_intercalate_concat " "
        subject.classifier.visibility.keyword?.toList "function __construct()"
      refine ⟨before, ")", ?_⟩
      have text : before ++ "function " ++ ClassMethod.defaultConstructor.name ++ "(" ++ ")" =
          before ++ "function __construct()" := by
        rw [String.append_assoc, String.append_assoc, String.append_assoc]
        rfl
      rw [text, ← header]
      exact (header_within_block _ _).trans (within_append_right _ _)
  | factory operation => exact holdsFunction_operation (holdsSignature_classMethod rfl called)
  | ordinary operation => exact holdsFunction_operation (holdsSignature_classMethod rfl called)

/-- An operation without a name is left out. -/
theorem classMethod_of_unnamed {method : ClassMethod} (unnamed : method.name = "") :
    rendering.classMethod subject method = .empty := by
  have left : ∀ (operation : Operation) (specified : Fragment), operation.name = "" →
      rendering.method subject.element.name operation specified {} = .empty := by
    intro operation specified unnamed
    rw [Rendering.method, unnamed]
    rfl
  cases method with
  | defaultConstructor => exact absurd unnamed (by decide)
  | factory operation => exact left operation _ unnamed
  | ordinary operation => exact left operation _ unnamed

theorem holdsFunction_declaration (named : name ∈ rendering.methodNames subject) :
    HoldsFunction name (rendering.classDeclaration subject nested) := by
  obtain ⟨⟨method, written, rfl⟩, called⟩ := mem_methodNames.mp named
  obtain ⟨before, after, text⟩ : HoldsFunction method.name (rendering.classMethod subject method) :=
    holdsFunction_classMethod called
  exact ⟨before, after, text.trans (classMethod_within written)⟩

/-! ### Accessors -/

/-- The accessors of the attributes of a classifier. -/
def accessorsOf (owner : Classifier) : List Operation :=
  owner.attributes.flatMap (accessors owner)

/-- Two attributes have no accessor in common: their names differ in camel case, or the accessors that they
    would share are declared by their owner. -/
def AccessorsApart (owner : Classifier) (first second : Attribute) : Prop :=
  hasAccessors first = true → hasAccessors second = true →
    Text.camelize first.name .upper = Text.camelize second.name .upper →
      owner.declares (setter first).name = true ∧
        (getterWord first.type = getterWord second.type → owner.declares (getter first).name = true)

instance (owner : Classifier) (first second : Attribute) : Decidable (AccessorsApart owner first second) :=
  inferInstanceAs (Decidable (_ → _))

theorem getterWord_eq (type : MemberType) : getterWord type = "is" ∨ getterWord type = "get" := by
  unfold getterWord
  split
  · exact .inl rfl
  · exact .inr rfl

theorem setter_name_inj : (setter first).name = (setter second).name ↔
    Text.camelize first.name .upper = Text.camelize second.name .upper :=
  String.append_right_inj _

/-- The names of two getters begin with the same word if they are equal: one word begins the names that ask,
    and another one those that do not. -/
theorem getter_name_inj : (getter first).name = (getter second).name ↔
    getterWord first.type = getterWord second.type ∧
      Text.camelize first.name .upper = Text.camelize second.name .upper := by
  constructor
  · intro same
    have words : getterWord first.type = getterWord second.type := by
      have characters := congrArg (fun text : String => text.toList.head?) same
      rcases getterWord_eq first.type with one | one <;> rcases getterWord_eq second.type with other | other <;>
        simp [getter, one, other] at characters ⊢
    refine ⟨words, ?_⟩
    have names : getterWord first.type ++ Text.camelize first.name .upper =
        getterWord second.type ++ Text.camelize second.name .upper := same
    rw [words] at names
    exact (String.append_right_inj _).mp names
  · rintro ⟨words, names⟩
    simp only [getter, words, names]

/-- The character that the name of an accessor begins with. -/
theorem head?_of_accessor (kind : operation = setter member ∨ operation = getter member) :
    operation.name.toList.head? ∈ [some 's', some 'g', some 'i'] := by
  rcases kind with rfl | rfl
  · simp [setter]
  · rcases getterWord_eq member.type with word | word <;> simp [getter, word]

theorem head?_of_mem_accessors (accessor : operation ∈ accessors owner member) :
    operation.name.toList.head? ∈ [some 's', some 'g', some 'i'] :=
  head?_of_accessor (mem_accessors.mp accessor).2.1

theorem setter_name_ne_getter_name : (setter first).name ≠ (getter second).name := by
  intro same
  have characters := congrArg (fun text : String => text.toList.head?) same
  rcases getterWord_eq second.type with word | word <;> simp [setter, getter, word] at characters

theorem mem_accessorNames : name ∈ namesOf (accessors owner member) ↔
    hasAccessors member = true ∧ (name = (setter member).name ∨ name = (getter member).name) ∧
      owner.declares name = false := by
  rw [mem_namesOf]
  constructor
  · rintro ⟨⟨operation, accessor, rfl⟩, -⟩
    obtain ⟨has, rfl | rfl, undeclared⟩ := mem_accessors.mp accessor
    · exact ⟨has, .inl rfl, undeclared⟩
    · exact ⟨has, .inr rfl, undeclared⟩
  · rintro ⟨has, named, undeclared⟩
    obtain ⟨operation, accessor, rfl⟩ :
        ∃ operation ∈ accessors owner member, operation.name = name := by
      rcases named with rfl | rfl
      · exact ⟨setter member, mem_accessors.mpr ⟨has, .inl rfl, undeclared⟩, rfl⟩
      · exact ⟨getter member, mem_accessors.mpr ⟨has, .inr rfl, undeclared⟩, rfl⟩
    refine ⟨⟨operation, accessor, rfl⟩, ?_⟩
    intro empty
    have head := head?_of_mem_accessors accessor
    simp [empty] at head

theorem disjoint_accessorNames_iff :
    (namesOf (accessors owner first)).Disjoint (namesOf (accessors owner second)) ↔
      AccessorsApart owner first second := by
  constructor
  · intro apart hasFirst hasSecond same
    have sets := setter_name_inj.mpr same
    constructor
    · by_contra undeclared
      rw [Bool.not_eq_true] at undeclared
      exact apart (mem_accessorNames.mpr ⟨hasFirst, .inl rfl, undeclared⟩)
        (mem_accessorNames.mpr ⟨hasSecond, .inl sets, undeclared⟩)
    · intro words
      have gets := getter_name_inj.mpr ⟨words, same⟩
      by_contra undeclared
      rw [Bool.not_eq_true] at undeclared
      exact apart (mem_accessorNames.mpr ⟨hasFirst, .inr rfl, undeclared⟩)
        (mem_accessorNames.mpr ⟨hasSecond, .inr gets, undeclared⟩)
  · intro apart name ofFirst ofSecond
    obtain ⟨hasFirst, rfl | rfl, undeclared⟩ := mem_accessorNames.mp ofFirst
    case inl =>
      obtain ⟨hasSecond, sets | mixed, -⟩ := mem_accessorNames.mp ofSecond
      · obtain ⟨declared, -⟩ := apart hasFirst hasSecond (setter_name_inj.mp sets)
        rw [undeclared] at declared
        cases declared
      · exact setter_name_ne_getter_name mixed
    case inr =>
      obtain ⟨hasSecond, mixed | gets, -⟩ := mem_accessorNames.mp ofSecond
      · exact setter_name_ne_getter_name mixed.symm
      · obtain ⟨words, same⟩ := getter_name_inj.mp gets
        obtain ⟨-, declared⟩ := apart hasFirst hasSecond same
        rw [declared words] at undeclared
        cases undeclared

/-- The two accessors of one attribute have different names. -/
theorem nodup_namesOf_accessors : (namesOf (accessors owner member)).Nodup := by
  apply List.Nodup.filter
  unfold accessors
  split
  · have both : ([setter member, getter member].map Operation.name).Nodup :=
      List.nodup_cons.mpr ⟨by simpa using setter_name_ne_getter_name, List.nodup_singleton _⟩
    exact both.sublist (List.filter_sublist.map _)
  · exact List.nodup_nil

/-- The names of accessors are distinct if and only if no two attributes share one. -/
theorem nodup_accessorNames_iff :
    (namesOf (accessorsOf owner)).Nodup ↔ owner.attributes.Pairwise (AccessorsApart owner) := by
  have names : namesOf (accessorsOf owner) =
      owner.attributes.flatMap fun member => namesOf (accessors owner member) := by
    rw [namesOf, accessorsOf, List.map_flatMap, List.filter_flatMap]
    rfl
  rw [names, List.nodup_flatMap, and_iff_right fun _ _ => nodup_namesOf_accessors]
  exact List.Pairwise.iff fun first second => disjoint_accessorNames_iff

theorem undeclared_of_mem_accessorsOf (owner : Classifier) :
    ∀ operation ∈ accessorsOf owner, owner.declares operation.name = false := by
  intro operation accessor
  obtain ⟨member, -, accessor⟩ := List.mem_flatMap.mp accessor
  exact (mem_accessors.mp accessor).2.2

/-- No accessor is called like a method that begins with another character. -/
theorem not_mem_accessorNames (begins : name.toList.head? ∉ [some 's', some 'g', some 'i']) :
    name ∉ namesOf (accessorsOf owner) := by
  intro named
  obtain ⟨⟨operation, accessor, rfl⟩, -⟩ := mem_namesOf.mp named
  obtain ⟨member, -, accessor⟩ := List.mem_flatMap.mp accessor
  exact begins (head?_of_mem_accessors accessor)

/-! ### Methods of tags -/

theorem mem_stereotypeNames (tagged : name ∈ namesOf (stereotypeMethods owner)) :
    name = "getIterator" ∨ name = "count" := by
  obtain ⟨⟨operation, added, rfl⟩, -⟩ := mem_namesOf.mp tagged
  obtain ⟨method, called, rfl⟩ := (gathered_stereotypeMethods owner).source operation added
  obtain ⟨tag, -, called⟩ := List.mem_filterMap.mp called
  unfold stereotypeMethod? at called
  split at called
  · cases called
    exact .inl rfl
  · cases called
    exact .inr rfl
  · cases called

theorem nodup_stereotypeNames : (namesOf (stereotypeMethods owner)).Nodup :=
  (gathered_stereotypeMethods owner).distinct.filter _

/-! ### Operations of supertypes -/

/-- The operations that the interfaces and the superclass of an element require of it. -/
def inheritedOperations (model : Model) (id : ElementId) : List Operation :=
  interfaceStubs model id ++ abstractOverrides model id

theorem undeclared_of_mem_inherited (found : model.classifier? id = some owner) :
    ∀ operation ∈ inheritedOperations model id, owner.declares operation.name = false := by
  intro operation member
  rcases List.mem_append.mp member with stub | override
  · obtain ⟨holder, _, _, _, holds, _, _, _, undeclared, rfl⟩ := mem_interfaceStubs stub
    rw [found] at holds
    cases holds
    exact undeclared
  · obtain ⟨holder, _, _, _, holds, _, _, _, _, undeclared, rfl⟩ := mem_abstractOverrides override
    rw [found] at holds
    cases holds
    exact undeclared

/-- A class without a superclass has no operations of a superclass to implement. -/
theorem abstractOverrides_eq_nil (none : superclasses model id = []) : abstractOverrides model id = [] := by
  have parent : parentClass? model id = Option.none := by
    rw [parentClass?, none]
    rfl
  unfold abstractOverrides
  rw [parent]
  cases model.classifier? id <;> rfl

/-! ### Methods of a class -/

/-- The name of the constructor that a class gets, if it gets one. -/
def constructorNames (rendering : Rendering) (subject : Subject) : List String :=
  if rendering.needsConstructor subject then ["__construct"] else []

theorem mem_constructorNames : name ∈ constructorNames rendering subject ↔
    rendering.needsConstructor subject = true ∧ name = "__construct" := by
  unfold constructorNames
  split <;> simp [*]

theorem nodup_constructorNames : (constructorNames rendering subject).Nodup := by
  unfold constructorNames
  split
  · exact List.nodup_singleton _
  · exact List.nodup_nil

theorem methodNames_eq : rendering.methodNames subject =
    constructorNames rendering subject ++
      (namesOf (subject.classifier.operations.filter isFactory) ++
        (namesOf (accessorsOf subject.classifier) ++ namesOf (stereotypeMethods subject.classifier) ++
          namesOf (interfaceStubs rendering.model subject.id) ++
          namesOf (subject.classifier.operations.filter (!isFactory ·)) ++
          namesOf (abstractOverrides rendering.model subject.id))) := by
  have constructed :
      ((if rendering.needsConstructor subject then [ClassMethod.defaultConstructor] else []).map
        ClassMethod.name).filter (!·.isEmpty) = constructorNames rendering subject := by
    unfold constructorNames
    split <;> rfl
  have written : ∀ (form : Operation → ClassMethod), (∀ operation, (form operation).name = operation.name) →
      ∀ operations : List Operation,
        ((operations.map form).map ClassMethod.name).filter (!·.isEmpty) = namesOf operations := by
    intro form same operations
    rw [List.map_map, namesOf]
    congr 1
    exact List.map_congr_left fun operation _ => same operation
  rw [Rendering.methodNames, Rendering.classMethods]
  rw [List.map_append, List.map_append, List.filter_append, List.filter_append, constructed,
    written .factory (fun _ => rfl), written .ordinary (fun _ => rfl), List.append_assoc]
  simp only [Rendering.synthesized, namesOf_append]
  rfl

/-- The methods of a class by where they come from. Its own operations are the factories and the others. -/
theorem methodNames_perm : (rendering.methodNames subject).Perm
    (constructorNames rendering subject ++ (namesOf subject.classifier.operations ++
      (namesOf (accessorsOf subject.classifier) ++ (namesOf (stereotypeMethods subject.classifier) ++
        namesOf (inheritedOperations rendering.model subject.id))))) := by
  have parts : (namesOf (subject.classifier.operations.filter isFactory) ++
      namesOf (subject.classifier.operations.filter (!isFactory ·))).Perm
        (namesOf subject.classifier.operations) := by
    rw [← namesOf_append]
    exact ((List.filter_append_perm isFactory _).map _).filter _
  rw [methodNames_eq, inheritedOperations, namesOf_append]
  -- other sources stand between the two parts of the declared operations, so names are counted
  apply List.perm_iff_count.mpr
  intro name
  have own := parts.count_eq name
  simp only [List.count_append] at own ⊢
  omega

/-- What keeps the methods of a class apart. -/
structure MethodsApart (rendering : Rendering) (subject : Subject) : Prop where
  /-- The class declares no two operations of one name. -/
  declared : (namesOf subject.classifier.operations).Nodup
  /-- No two attributes get one accessor. -/
  accessors : subject.classifier.attributes.Pairwise (AccessorsApart subject.classifier)
  /-- The interfaces and the superclass leave no two operations of one name. -/
  inherited : (namesOf (inheritedOperations rendering.model subject.id)).Nodup
  /-- They leave nothing that an attribute gives. -/
  accessor : ∀ name ∈ namesOf (accessorsOf subject.classifier),
    name ∉ namesOf (inheritedOperations rendering.model subject.id)
  /-- They leave nothing that a tag calls for. -/
  tagged : ∀ name ∈ namesOf (stereotypeMethods subject.classifier),
    name ∉ namesOf (inheritedOperations rendering.model subject.id)
  /-- No attribute gives the iterator that a tag calls for. -/
  iterator : "getIterator" ∈ namesOf (accessorsOf subject.classifier) →
    "getIterator" ∉ namesOf (stereotypeMethods subject.classifier)
  /-- No interface leaves the constructor that the class gets. -/
  construction : rendering.needsConstructor subject = true →
    "__construct" ∉ namesOf (interfaceStubs rendering.model subject.id)

/-! ### Sources side by side -/

theorem disjoint_constructor_iff {names : List String} : (constructorNames rendering subject).Disjoint names ↔
    (rendering.needsConstructor subject = true → "__construct" ∉ names) := by
  constructor
  · intro apart needs
    exact apart (mem_constructorNames.mpr ⟨needs, rfl⟩)
  · intro absent name constructed
    obtain ⟨needs, rfl⟩ := mem_constructorNames.mp constructed
    exact absent needs

/-- A class gets a constructor only where it declares none. -/
theorem constructor_disjoint_declared :
    (constructorNames rendering subject).Disjoint (namesOf subject.classifier.operations) := by
  apply disjoint_constructor_iff.mpr
  intro needs declared
  have taken := declares_of_mem_namesOf declared
  rw [Rendering.needsConstructor, taken] at needs
  simp at needs

theorem constructor_disjoint_tagged :
    (constructorNames rendering subject).Disjoint (namesOf (stereotypeMethods owner)) := by
  apply disjoint_constructor_iff.mpr
  intro _ tagged
  rcases mem_stereotypeNames tagged with same | same <;> exact absurd same (by decide)

/-- A class that gets a constructor has no superclass, and so only interfaces leave it anything. -/
theorem constructor_disjoint_inherited_iff :
    (constructorNames rendering subject).Disjoint (namesOf (inheritedOperations rendering.model subject.id)) ↔
      (rendering.needsConstructor subject = true →
        "__construct" ∉ namesOf (interfaceStubs rendering.model subject.id)) := by
  rw [disjoint_constructor_iff]
  apply imp_congr_right
  intro needs
  have root : superclasses rendering.model subject.id = [] := by
    simp only [Rendering.needsConstructor, Bool.and_eq_true, List.isEmpty_iff] at needs
    exact needs.1.2
  rw [inheritedOperations, abstractOverrides_eq_nil root, List.append_nil]

/-- The iterator is the only method of a tag that is named like an accessor. -/
theorem accessors_disjoint_tagged_iff :
    (namesOf (accessorsOf owner)).Disjoint (namesOf (stereotypeMethods owner)) ↔
      ("getIterator" ∈ namesOf (accessorsOf owner) → "getIterator" ∉ namesOf (stereotypeMethods owner)) := by
  constructor
  · intro apart accessor tagged
    exact apart accessor tagged
  · intro apart name accessor tagged
    rcases mem_stereotypeNames tagged with rfl | rfl
    · exact apart accessor tagged
    · exact not_mem_accessorNames (by decide) accessor

/-- Methods of a class. Its declaration holds a function for each of their names, and an operation without a
    name leaves nothing. The names are distinct if and only if the sources of the methods are kept apart:
    everything that is added to the declared operations differs from them, and methods of tags differ from
    each other, but nothing else does of itself. -/
theorem methods_distinct_iff (found : Subject.find? rendering.model id = some subject) :
    (∀ name ∈ rendering.methodNames subject,
      HoldsFunction name (rendering.classDeclaration subject nested)) ∧
    (∀ method ∈ rendering.classMethods subject, method.name = "" →
      rendering.classMethod subject method = .empty) ∧
    ((rendering.methodNames subject).Nodup ↔ MethodsApart rendering subject) := by
  have real : rendering.model.classifier? subject.id = some subject.classifier := by
    obtain ⟨rfl, -, classifier⟩ := eq_of_find? found
    exact classifier
  have ownAccessors := disjoint_declared (undeclared_of_mem_accessorsOf subject.classifier)
  have ownTagged := disjoint_declared (gathered_stereotypeMethods subject.classifier).undeclared
  have ownInherited := disjoint_declared (undeclared_of_mem_inherited real)
  refine ⟨fun name named => holdsFunction_declaration named, fun method _ => classMethod_of_unnamed, ?_⟩
  -- each source is distinct in itself and disjoint from the others; declared names never stand in the way
  rw [methodNames_perm.nodup_iff]
  simp only [List.nodup_append', List.disjoint_append_right]
  constructor
  · rintro ⟨-, ⟨declared, ⟨accessors, ⟨-, inherited, tagged⟩, iterator, accessor⟩, -⟩, -, -, -,
      construction⟩
    exact
      { declared
        accessors := nodup_accessorNames_iff.mp accessors
        inherited
        accessor := fun _ => @accessor _
        tagged := fun _ => @tagged _
        iterator := accessors_disjoint_tagged_iff.mp iterator
        construction := constructor_disjoint_inherited_iff.mp construction }
  · intro apart
    refine ⟨nodup_constructorNames, ⟨apart.declared, ⟨nodup_accessorNames_iff.mpr apart.accessors,
      ⟨nodup_stereotypeNames, apart.inherited, apart.tagged⟩,
      accessors_disjoint_tagged_iff.mpr apart.iterator, apart.accessor⟩, ownAccessors, ownTagged,
      ownInherited⟩, constructor_disjoint_declared, ?_, constructor_disjoint_tagged,
      constructor_disjoint_inherited_iff.mpr apart.construction⟩
    apply disjoint_constructor_iff.mpr
    intro _
    exact not_mem_accessorNames (by decide)

/-- Vehicles. A car has two interfaces which both require it to start. A truck has an interface which requires
    the getter of its load. A bike has one interface, counts its gears, and is itself countable. -/
def fleet : Model where
  author? := none
  elements := #[
    { id := 0, name := "Fleet", parent? := none, owned := [1, 2, 3, 4, 5], content := .model },
    { id := 1, name := "Engine", parent? := some 0, content := .classifier .interface engine },
    { id := 2, name := "Vehicle", parent? := some 0, content := .classifier .interface vehicle },
    { id := 3, name := "Car", parent? := some 0, content := .classifier .classType {} },
    { id := 4, name := "Truck", parent? := some 0, content := .classifier .classType truck },
    { id := 5, name := "Bike", parent? := some 0, content := .classifier .classType bike }]
  relationships := [.realization 3 1, .realization 3 2, .realization 4 2, .realization 5 2]
  keys := []
where
  /-- The interface of what can be started. -/
  engine : Classifier :=
    { operations := [{ name := "start" }] }
  /-- The interface of what can be started and carries something. -/
  vehicle : Classifier :=
    { operations := [{ name := "start" }, { name := "getLoad" }] }
  /-- The truck itself. -/
  truck : Classifier :=
    { attributes := [{ name := "load", visibility := .priv }] }
  /-- The bike itself. -/
  bike : Classifier :=
    { stereotype? := some "Countable"
      attributes := [{ name := "gear_count", visibility := .priv }] }

/-- The methods of the bike have distinct names. The car starts twice, and the truck has two getters. -/
theorem methods_distinct_fleet :
    ∃ car truck bike, Subject.find? fleet 3 = some car ∧ Subject.find? fleet 4 = some truck ∧
      Subject.find? fleet 5 = some bike ∧
      ¬((renderingIn fleet {} "").methodNames car).Nodup ∧
      ¬((renderingIn fleet {} "").methodNames truck).Nodup ∧
      ((renderingIn fleet {} "").methodNames bike).Nodup := by
  let rendering := renderingIn fleet {} ""
  let car : Subject :=
    ⟨3, { id := 3, name := "Car", parent? := some 0, content := .classifier .classType {} }, {}⟩
  let truck : Subject :=
    ⟨4, { id := 4, name := "Truck", parent? := some 0, content := .classifier .classType fleet.truck },
      fleet.truck⟩
  let bike : Subject :=
    ⟨5, { id := 5, name := "Bike", parent? := some 0, content := .classifier .classType fleet.bike },
      fleet.bike⟩
  have isCar : Subject.find? rendering.model 3 = some car := rfl
  have isTruck : Subject.find? rendering.model 4 = some truck := rfl
  have isBike : Subject.find? rendering.model 5 = some bike := rfl
  refine ⟨car, truck, bike, isCar, isTruck, isBike, ?_, ?_, ?_⟩
  · obtain ⟨-, -, apart⟩ := @methods_distinct_iff rendering car .empty 3 isCar
    intro distinct
    have twice : ¬(namesOf (inheritedOperations fleet 3)).Nodup := by decide +kernel
    exact twice (apart.mp distinct).inherited
  · obtain ⟨-, -, apart⟩ := @methods_distinct_iff rendering truck .empty 4 isTruck
    intro distinct
    have given : "getLoad" ∈ namesOf (accessorsOf fleet.truck) := by decide +kernel
    have required : "getLoad" ∈ namesOf (inheritedOperations fleet 4) := by decide +kernel
    exact (apart.mp distinct).accessor "getLoad" given required
  · obtain ⟨-, -, apart⟩ := @methods_distinct_iff rendering bike .empty 5 isBike
    apply apart.mpr
    exact
      { declared := by decide +kernel
        accessors := by decide +kernel
        inherited := by decide +kernel
        accessor := by decide +kernel
        tagged := by decide +kernel
        iterator := by decide +kernel
        construction := by decide +kernel }

end Blueprint.Php
