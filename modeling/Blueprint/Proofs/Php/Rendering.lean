/-
Module: Blueprint.Proofs.Php.Rendering
Purpose: What a declaration reads of a model. A member is written from the names of its types, and a
  declaration from the answers to queries; so models that agree from a core give the same units for the
  elements of the core.
Main exports: Rendering.Alike, Rendering.WritesAlike, Rendering.Alike.method, Model.AgreesFrom.classMethods,
  Model.AgreesFrom.declareNested, Model.AgreesFrom.unitOf?
-/
import Blueprint.Proofs.Php.Declaration
import Blueprint.Proofs.Php.Locality
import Blueprint.Proofs.Php.Nesting

namespace Blueprint.Php

/-! ### Members -/

/-- Two renderings make the same choices in the same namespace, though perhaps of different models. -/
structure Rendering.Alike (first second : Rendering) : Prop where
  options : second.options = first.options
  namespaceName : second.namespaceName = first.namespaceName

/-- Two renderings write the type of a member alike in every style. -/
def Rendering.WritesAlike (first second : Rendering) (shape : Shape) : Prop :=
  ∀ style bare, second.typeText (some shape) style bare = first.typeText (some shape) style bare

section Results

variable {first second : Rendering} {operation : Operation}
  (writes : ∀ parameter ∈ operation.parameters, first.WritesAlike second parameter.shape)

include writes

theorem resultType?_congr : second.resultType? operation = first.resultType? operation := by
  rw [Rendering.resultType?, Rendering.resultType?]
  apply Option.map_congr
  intro result found
  exact writes result (List.mem_of_find?_eq_some found) _ _

theorem methodDoc_congr : second.methodDoc operation = first.methodDoc operation := by
  have arguments : (operation.arguments.map fun parameter =>
        "\n@param " ++ second.typeText parameter.shape .documentation true ++ " " ++
          parameterName .documentation parameter.name ++ " " ++ parameter.documentation) =
      operation.arguments.map fun parameter =>
        "\n@param " ++ first.typeText parameter.shape .documentation true ++ " " ++
          parameterName .documentation parameter.name ++ " " ++ parameter.documentation := by
    apply List.map_congr_left
    intro parameter member
    rw [writes parameter (List.mem_of_mem_filter member)]
  have results : (operation.result?.toList.map fun parameter =>
        "\n@return " ++ second.typeText parameter.shape .documentation true ++ " " ++
          parameter.documentation) =
      operation.result?.toList.map fun parameter =>
        "\n@return " ++ first.typeText parameter.shape .documentation true ++ " " ++
          parameter.documentation := by
    apply List.map_congr_left
    intro parameter member
    rw [writes parameter (List.mem_of_find?_eq_some (Option.mem_toList.mp member))]
  simp only [Rendering.methodDoc, arguments, results]

end Results

namespace Rendering.Alike

variable {first second : Rendering} (alike : first.Alike second)

include alike

theorem docBlock (text : String) : second.docBlock text = first.docBlock text := by
  rw [Rendering.docBlock, Rendering.docBlock, alike.options]

theorem field {member : Variable} (writes : first.WritesAlike second member.shape) :
    second.field member = first.field member := by
  rw [Rendering.field, Rendering.field, alike.docBlock, Rendering.variableDoc, Rendering.variableDoc,
    writes]

theorem hint? {parameter : Parameter} (writes : first.WritesAlike second parameter.shape) :
    second.hint? parameter = first.hint? parameter := by
  rw [Rendering.hint?, Rendering.hint?, alike.options, alike.namespaceName, writes]

theorem parameter {parameter : Parameter} (writes : first.WritesAlike second parameter.shape) :
    second.parameter parameter = first.parameter parameter := by
  rw [Rendering.parameter, Rendering.parameter, alike.hint? writes]

theorem parameterImports {parameter : Parameter} (writes : first.WritesAlike second parameter.shape) :
    second.parameterImports parameter = first.parameterImports parameter := by
  rw [Rendering.parameterImports, Rendering.parameterImports, alike.hint? writes]

section Operation

variable {operation : Operation}
  (writes : ∀ parameter ∈ operation.parameters, first.WritesAlike second parameter.shape)

include writes

theorem signature (owner : String) (style : SignatureStyle) :
    second.signature owner operation style = first.signature owner operation style := by
  have arguments : operation.arguments.map second.parameter = operation.arguments.map first.parameter := by
    apply List.map_congr_left
    intro parameter member
    exact alike.parameter (writes parameter (List.mem_of_mem_filter member))
  have result : second.resultDeclaration owner operation = first.resultDeclaration owner operation := by
    rw [Rendering.resultDeclaration, Rendering.resultDeclaration, alike.options, resultType?_congr writes]
  rw [Rendering.signature, Rendering.signature, result]
  cases style.withParameters with
  | false => simp only [Bool.false_eq_true, if_false, List.map_nil]
  | true => simp only [if_true, arguments]

theorem signatureImports (style : SignatureStyle) :
    second.signatureImports operation style = first.signatureImports operation style := by
  have arguments : operation.arguments.flatMap second.parameterImports =
      operation.arguments.flatMap first.parameterImports := by
    apply List.flatMap_congr
    intro parameter member
    exact alike.parameterImports (writes parameter (List.mem_of_mem_filter member))
  rw [Rendering.signatureImports, Rendering.signatureImports, arguments]

/-- A method is written alike when the types of its parameters are. -/
theorem method (owner : String) (specified : Fragment) (style : SignatureStyle) :
    second.method owner operation specified style = first.method owner operation specified style := by
  have body : second.methodBody operation specified = first.methodBody operation specified := by
    rw [Rendering.methodBody, Rendering.methodBody, resultType?_congr writes]
  simp only [Rendering.method, alike.docBlock, methodDoc_congr writes, alike.signature writes,
    alike.signatureImports writes, body]

end Operation

end Rendering.Alike

theorem renderingIn_alike (model other : Model) (options : Options) (namespaceName : String) :
    (renderingIn model options namespaceName).Alike (renderingIn other options namespaceName) :=
  ⟨rfl, rfl⟩

end Blueprint.Php

namespace Blueprint.Model.AgreesFrom

open Php

variable {core region : ElementId → Prop} {model other : Model}
  (agrees : AgreesFrom core region model other)
  {options : Options} {namespaceName : String} {id : ElementId}

include agrees

/-- A type within the region is written alike. -/
theorem writesAlike {shape : Shape} (within : TypeWithin region shape.type) :
    (renderingIn model options namespaceName).WritesAlike
      (renderingIn other options namespaceName) shape := by
  intro style bare
  have value : Scope.valueType ⟨other, namespaceName⟩ shape bare =
      Scope.valueType ⟨model, namespaceName⟩ shape bare := by
    cases typed : shape.type with
    | element target =>
        have inside := within target typed
        simp only [Scope.valueType, typed, Scope.seen, agrees.nameOf inside, agrees.namespaceOf inside,
          agrees.qualifiedName inside]
    | untyped => simp only [Scope.valueType, typed]
    | primitive name => simp only [Scope.valueType, typed]
  have type : Scope.memberType ⟨other, namespaceName⟩ shape style bare =
      Scope.memberType ⟨model, namespaceName⟩ shape style bare := by
    rw [Scope.memberType, Scope.memberType, value]
  dsimp only [renderingIn, Scope.typeText]
  rw [type]

theorem method {operation : Operation} (within : OperationWithin region operation) (owner : String)
    (specified : Fragment) (style : SignatureStyle) :
    (renderingIn other options namespaceName).method owner operation specified style =
      (renderingIn model options namespaceName).method owner operation specified style := by
  apply (renderingIn_alike model other options namespaceName).method
  intro parameter taken
  exact agrees.writesAlike (within parameter taken)

/-! ### Parts of declarations -/

theorem docWithAuthor (documentation : String) :
    (renderingIn other options namespaceName).docWithAuthor documentation =
      (renderingIn model options namespaceName).docWithAuthor documentation := by
  dsimp only [renderingIn, Rendering.docWithAuthor]
  rw [agrees.author]

section Subject

variable {subject : Subject} (inside : core subject.id)

include inside

/-- Whatever touches an element, its members are ends of associations with the element at an end. -/
theorem memberEnds :
    (renderingIn other options namespaceName).memberEnds subject =
      (renderingIn model options namespaceName).memberEnds subject := by
  dsimp only [renderingIn, Rendering.memberEnds, Model.relationshipsOf]
  rw [List.filterMap_filter, List.filterMap_filter]
  apply agrees.filterMap_relationships inside
  intro relationship elsewhere
  cases relationship with
  | association ends =>
      have untouched : (Relationship.association ends).involves subject.id = false := elsewhere
      rw [untouched]
      rfl
  | _ => exact ite_self none

theorem traitUses :
    (renderingIn other options namespaceName).traitUses subject =
      (renderingIn model options namespaceName).traitUses subject := by
  have names : ((Php.traitsOf model subject.id).map fun use => other.nameOf use.target) =
      (Php.traitsOf model subject.id).map fun use => model.nameOf use.target := by
    apply List.map_congr_left
    intro use member
    exact agrees.nameOf (agrees.mentioned inside (mentions_traitsOf member))
  dsimp only [renderingIn, Rendering.traitUses]
  rw [agrees.traitsOf inside, names]

/-- The element at an end that is a member is in the region, as the type of the member. -/
theorem memberEnds_within {found : AssociationEnd}
    (member : found ∈ (renderingIn model options namespaceName).memberEnds subject) :
    TypeWithin region found.shape.type := by
  obtain ⟨relationship, touches, leads⟩ := List.mem_filterMap.mp member
  have declared := List.mem_of_mem_filter touches
  cases relationship with
  | association ends =>
      obtain ⟨across, _⟩ := Option.filter_eq_some_iff.mp leads
      rintro target ⟨⟩
      exact agrees.mentioned inside (.association declared across)
  | _ => cases leads

theorem endFields :
    (renderingIn other options namespaceName).endFields subject =
      (renderingIn model options namespaceName).endFields subject := by
  rw [Rendering.endFields, Rendering.endFields, agrees.memberEnds inside]
  apply congrArg Fragment.concat
  apply List.map_congr_left
  intro found member
  rw [(renderingIn_alike model other options namespaceName).field]
  exact agrees.writesAlike (agrees.memberEnds_within inside member)

theorem elementImports :
    (renderingIn other options namespaceName).elementImports subject =
      (renderingIn model options namespaceName).elementImports subject := by
  dsimp only [renderingIn, Rendering.elementImports]
  rw [agrees.importsOf inside]

theorem classHeader :
    (renderingIn other options namespaceName).classHeader subject =
      (renderingIn model options namespaceName).classHeader subject := by
  have interfaces := agrees.supertypeNames inside (Php.superinterfaces model subject.id)
    fun target member => mentions_realizedBy (mem_superinterfaces_element member)
  have parent : ((Php.superclasses model subject.id).head?.toList.map fun parent =>
        "extends " ++ parent.name other) =
      (Php.superclasses model subject.id).head?.toList.map fun parent =>
        "extends " ++ parent.name model := by
    apply List.map_congr_left
    intro parent member
    have declared := List.mem_of_head? (Option.mem_toList.mp member)
    cases parent with
    | element target =>
        have within := agrees.mentioned inside
          (mentions_generalizedBy (mem_superclasses_element declared))
        simp only [Supertype.name, agrees.nameOf within]
    | tagged name => rfl
  dsimp only [renderingIn, Rendering.classHeader]
  rw [agrees.superclasses inside, agrees.superinterfaces inside, interfaces, parent]

theorem interfaceHeader :
    (renderingIn other options namespaceName).interfaceHeader subject =
      (renderingIn model options namespaceName).interfaceHeader subject := by
  have parents := agrees.supertypeNames inside (Php.superclasses model subject.id)
    fun target member => mentions_generalizedBy (mem_superclasses_element member)
  dsimp only [renderingIn, Rendering.interfaceHeader]
  rw [agrees.superclasses inside, parents]

theorem needsConstructor :
    (renderingIn other options namespaceName).needsConstructor subject =
      (renderingIn model options namespaceName).needsConstructor subject := by
  dsimp only [renderingIn, Rendering.needsConstructor]
  rw [agrees.superclasses inside]

theorem synthesized :
    (renderingIn other options namespaceName).synthesized subject =
      (renderingIn model options namespaceName).synthesized subject := by
  dsimp only [renderingIn, Rendering.synthesized]
  rw [agrees.interfaceStubs inside]

/-- A class has the same methods in both models. -/
theorem classMethods :
    (renderingIn other options namespaceName).classMethods subject =
      (renderingIn model options namespaceName).classMethods subject := by
  have overrides : Php.abstractOverrides (renderingIn other options namespaceName).model subject.id =
      Php.abstractOverrides (renderingIn model options namespaceName).model subject.id :=
    agrees.abstractOverrides inside
  rw [Rendering.classMethods, Rendering.classMethods, agrees.needsConstructor inside,
    agrees.synthesized inside, overrides]

section Real

variable (real : model.classifier? subject.id = some subject.classifier)

include real

theorem attributeFields :
    (renderingIn other options namespaceName).attributeFields subject =
      (renderingIn model options namespaceName).attributeFields subject := by
  rw [Rendering.attributeFields, Rendering.attributeFields]
  apply congrArg Fragment.concat
  apply List.map_congr_left
  intro member named
  rw [(renderingIn_alike model other options namespaceName).field]
  apply agrees.writesAlike
  intro target typed
  exact agrees.mentioned inside (.attributeType real (List.mem_of_mem_filter named) typed)

theorem bareMethods (withParameters : Bool) :
    (renderingIn other options namespaceName).bareMethods subject withParameters =
      (renderingIn model options namespaceName).bareMethods subject withParameters := by
  rw [Rendering.bareMethods, Rendering.bareMethods]
  apply congrArg Fragment.concat
  apply List.map_congr_left
  intro operation declared
  rw [Rendering.operationMethod, Rendering.operationMethod]
  rw [agrees.method (agrees.operationWithin (agrees.within _ inside) real declared)]

/-- Every operation of a class has types within the region, wherever it comes from. -/
theorem classMethods_within {method : ClassMethod} {operation : Operation}
    (member : method ∈ (renderingIn model options namespaceName).classMethods subject)
    (written : method.operation? = some operation) : OperationWithin region operation := by
  rcases mem_classMethods_operation member written with
    declared | ⟨attr, declared, accessor⟩ | tagged | stub | override
  · exact agrees.operationWithin (agrees.within _ inside) real declared
  · have within : TypeWithin region attr.type := fun target typed =>
      agrees.mentioned inside (.attributeType real declared typed)
    obtain ⟨-, setter | getter, -⟩ := mem_accessors.mp accessor
    · rw [setter]
      intro parameter taken
      rcases List.mem_cons.mp taken with rfl | result
      · exact within
      · split at result
        · cases result
        · rw [List.mem_singleton.mp result]
          intro target typed
          cases typed
    · rw [getter]
      intro parameter taken
      rw [List.mem_singleton.mp taken]
      exact within
  · obtain ⟨method, -, rfl⟩ := (gathered_stereotypeMethods subject.classifier).source operation tagged
    intro parameter taken target typed
    rw [List.mem_singleton.mp taken] at typed
    cases typed
  · exact agrees.interfaceStubs_within inside stub
  · exact agrees.abstractOverrides_within inside override

theorem classMembers (nested : Fragment) :
    (renderingIn other options namespaceName).classMembers subject nested =
      (renderingIn model options namespaceName).classMembers subject nested := by
  have methods :
      (((renderingIn model options namespaceName).classMethods subject).map fun method =>
        spaced ((renderingIn other options namespaceName).classMethod subject method)) =
      ((renderingIn model options namespaceName).classMethods subject).map fun method =>
        spaced ((renderingIn model options namespaceName).classMethod subject method) := by
    apply List.map_congr_left
    intro method member
    cases method with
    | defaultConstructor => rfl
    | factory operation =>
        have within := agrees.classMethods_within inside real member rfl
        rw [Rendering.classMethod, Rendering.classMethod, Rendering.factoryMethod,
          Rendering.factoryMethod, agrees.method within]
    | ordinary operation =>
        have within := agrees.classMethods_within inside real member rfl
        rw [Rendering.classMethod, Rendering.classMethod, Rendering.operationMethod,
          Rendering.operationMethod, agrees.method within]
  rw [Rendering.classMembers, Rendering.classMembers, agrees.traitUses inside,
    agrees.attributeFields inside real, agrees.endFields inside, agrees.classMethods inside, methods]

/-! ### Declarations -/

theorem classDeclaration (nested : Fragment) :
    (renderingIn other options namespaceName).classDeclaration subject nested =
      (renderingIn model options namespaceName).classDeclaration subject nested := by
  rw [Rendering.classDeclaration, Rendering.classDeclaration, agrees.elementImports inside,
    agrees.docWithAuthor, (renderingIn_alike model other options namespaceName).docBlock,
    agrees.classHeader inside, agrees.classMembers inside real]

theorem interfaceDeclaration (nested : Fragment) :
    (renderingIn other options namespaceName).interfaceDeclaration subject nested =
      (renderingIn model options namespaceName).interfaceDeclaration subject nested := by
  rw [Rendering.interfaceDeclaration, Rendering.interfaceDeclaration, agrees.elementImports inside,
    (renderingIn_alike model other options namespaceName).docBlock, agrees.interfaceHeader inside,
    agrees.attributeFields inside real, agrees.endFields inside, agrees.bareMethods inside real]

theorem annotationDeclaration (nested : Fragment) :
    (renderingIn other options namespaceName).annotationDeclaration subject nested =
      (renderingIn model options namespaceName).annotationDeclaration subject nested := by
  rw [Rendering.annotationDeclaration, Rendering.annotationDeclaration, agrees.docWithAuthor,
    (renderingIn_alike model other options namespaceName).docBlock,
    agrees.attributeFields inside real, agrees.bareMethods inside real]

end Real

theorem enumDeclaration :
    (renderingIn other options namespaceName).enumDeclaration subject =
      (renderingIn model options namespaceName).enumDeclaration subject := by
  have docs : (renderingIn other options namespaceName).docBlock =
      (renderingIn model options namespaceName).docBlock :=
    funext (renderingIn_alike model other options namespaceName).docBlock
  rw [Rendering.enumDeclaration, Rendering.enumDeclaration, agrees.elementImports inside, docs]
  rfl

end Subject

theorem declarationIn {subject : Subject} (inside : core subject.id)
    (real : model.classifier? subject.id = some subject.classifier) (nested : Fragment) (form : Form) :
    declarationIn (renderingIn other options namespaceName) subject nested form =
      declarationIn (renderingIn model options namespaceName) subject nested form := by
  cases form with
  | classForm => exact agrees.classDeclaration inside real nested
  | interfaceForm => exact agrees.interfaceDeclaration inside real nested
  | annotationForm => exact agrees.annotationDeclaration inside real nested
  | enumForm => exact agrees.enumDeclaration inside

theorem subject (inside : core id) : Subject.find? other id = Subject.find? model id := by
  rw [Subject.find?, Subject.find?, agrees.elements id inside]

/-- To the same depth, the declarations of an element of the core are the same. -/
theorem declareNested (depth : Nat) (form : Form) (inside : core id) :
    (renderingIn other options namespaceName).declareNested depth form id =
      (renderingIn model options namespaceName).declareNested depth form id := by
  induction depth generalizing form id with
  | zero => rfl
  | succ depth ih =>
      have same : Subject.find? (renderingIn other options namespaceName).model id =
          Subject.find? (renderingIn model options namespaceName).model id := agrees.subject inside
      cases found : Subject.find? model id with
      | none =>
          have absent := same.trans found
          rw [Rendering.declareNested, Rendering.declareNested, same]
          simp only [renderingIn, found]
      | some subject =>
          obtain ⟨rfl, place, real⟩ := eq_of_find? found
          have nested : nestedIn (renderingIn other options namespaceName) depth form subject.element =
              nestedIn (renderingIn model options namespaceName) depth form subject.element := by
            apply congrArg Fragment.concat
            apply List.map_congr_left
            intro child listed
            have within : core child :=
              agrees.nested subject.id child inside ((mem_owned place).mpr listed)
            have sameChild : (renderingIn other options namespaceName).model.element? child =
                (renderingIn model options namespaceName).model.element? child :=
              agrees.elements child within
            rw [sameChild]
            split
            · rename_i inner _
              rw [ih inner within]
            · rfl
          rw [declareNested_succ (same.trans found), declareNested_succ found, nested,
            agrees.declarationIn inside real]

/-! ### Units -/

theorem declare (inside : core id) :
    (renderingIn other options namespaceName).declare id =
      (renderingIn model options namespaceName).declare id := by
  have whole : ∀ form, (renderingIn other options namespaceName).declareAs form id =
      (renderingIn model options namespaceName).declareAs form id := by
    intro form
    rw [Rendering.declareAs, agrees.declareNested _ form inside]
    exact declareNested_eq agrees.tree agrees.grown form id
  have same : (renderingIn other options namespaceName).model.element? id =
      (renderingIn model options namespaceName).model.element? id := agrees.elements id inside
  rw [Rendering.declare, Rendering.declare, same]
  split
  · exact whole _
  · rfl

/-- The unit of an element of the core is the same. -/
theorem unitOf? (options : Options) (inside : core id) :
    unitOf? other options id = unitOf? model options id := by
  rw [Php.unitOf?, Php.unitOf?, agrees.subject inside,
    agrees.namespaceOf (agrees.within id inside)]
  split
  · rfl
  · dsimp only
    rw [agrees.declare inside]

theorem fileName? (options : Options) (inside : core id) :
    fileName? other options id = fileName? model options id := by
  rw [Php.fileName?, Php.fileName?, agrees.elements id inside]

end Blueprint.Model.AgreesFrom
