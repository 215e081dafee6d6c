/-
Module: Blueprint.Proofs.Php.Signature
Purpose: The signatures in the unit of a classifier. Every declaration holds the signature of each named
  operation that it writes, and imports what the signature needs; in the text of a signature the name of the
  operation follows the word for functions, and the parameters follow the name.
Main exports: writtenOperations, HoldsSignature, classMethod_within, holdsSignature_declaration,
  writes_signature, exists_signature
-/
import Blueprint.Proofs.Php.Declaration
import Blueprint.Proofs.Php.Synthesis

namespace Blueprint.Php

open Fragment

variable {model : Model} {options : Options} {rendering : Rendering} {subject : Subject} {form : Form}
  {nested : Fragment} {id : ElementId} {operation : Operation} {owner : String} {unit : SourceUnit}

/-! ### Signatures in a unit -/

/-- The operations of which a declaration writes the signatures with parameters. -/
def writtenOperations (rendering : Rendering) (subject : Subject) : Form → List Operation
  | .classForm => (rendering.classMethods subject).filterMap ClassMethod.operation?
  | .interfaceForm => subject.classifier.operations
  | .annotationForm | .enumForm => []

/-- The part of a declaration that holds the signature of an operation and what it needs imported. -/
structure HoldsSignature (rendering : Rendering) (owner : String) (operation : Operation)
    (whole : Fragment) : Prop where
  text : ∃ ending ∈ ["", ";"], Within (ofText (rendering.signature owner operation {} ++ ending)) whole
  imports : Within (importing (rendering.signatureImports operation {})) whole

theorem HoldsSignature.within {part whole : Fragment}
    (holds : HoldsSignature rendering owner operation part) (inside : Within part whole) :
    HoldsSignature rendering owner operation whole where
  text := by
    obtain ⟨ending, known, signature⟩ := holds.text
    exact ⟨ending, known, signature.trans inside⟩
  imports := holds.imports.trans inside

/-- A method with parameters holds the signature of its operation, with or without a body. -/
theorem holdsSignature_method {style : SignatureStyle} (called : operation.name ≠ "")
    (whole : style.withParameters = true) (specified : Fragment) :
    HoldsSignature rendering owner operation (rendering.method owner operation specified style) := by
  have filled : operation.name.isEmpty = false := by simpa using called
  have signature : rendering.signature owner operation style = rendering.signature owner operation {} := by
    rw [Rendering.signature, Rendering.signature, whole]
  have imports : rendering.signatureImports operation style =
      rendering.signatureImports operation {} := by
    rw [Rendering.signatureImports, Rendering.signatureImports, whole]
  rw [Rendering.method, filled, signature, imports]
  constructor
  case text =>
    simp only [Bool.false_eq_true, if_false]
    split
    · exact ⟨";", by simp, within_append_right _ _⟩
    · refine ⟨"", by simp, ?_⟩
      rw [String.append_empty]
      exact (header_within_block _ _).trans (within_append_right _ _)
  case imports =>
    simp only [Bool.false_eq_true, if_false]
    exact (within_append_right _ _).trans (within_append_left _ _)

theorem holdsSignature_classMethod {method : ClassMethod} (written : method.operation? = some operation)
    (called : operation.name ≠ "") :
    HoldsSignature rendering subject.element.name operation (rendering.classMethod subject method) := by
  cases method with
  | defaultConstructor => cases written
  | factory found =>
      cases written
      exact holdsSignature_method called rfl _
  | ordinary found =>
      cases written
      exact holdsSignature_method called rfl _

/-- The methods of a class stand in the block of its declaration. The final blank line of the block, which
    is left out, belongs to none of them. -/
theorem classMethod_within {method : ClassMethod} (member : method ∈ rendering.classMethods subject) :
    Within (rendering.classMethod subject method) (rendering.classDeclaration subject nested) := by
  have methods : Within (spaced (rendering.classMethod subject method))
      (concat ((rendering.classMethods subject).map fun method =>
        spaced (rendering.classMethod subject method))) :=
    within_concat (List.mem_map.mpr ⟨method, member, rfl⟩)
  have members := (methods.trans (within_append_right
    (rendering.traitUses subject ++ blank ++ rendering.attributeFields subject ++
      rendering.endFields subject) _)).trans (within_append_left _ nested)
  exact (within_withoutFinalBlank members).trans
    ((content_within_block _ _).trans (within_append_right _ _))

theorem holdsSignature_declaration (written : operation ∈ writtenOperations rendering subject form)
    (called : operation.name ≠ "") :
    HoldsSignature rendering subject.element.name operation
      (declarationIn rendering subject nested form) := by
  cases form with
  | classForm =>
      obtain ⟨method, member, written⟩ := List.mem_filterMap.mp written
      exact (holdsSignature_classMethod written called).within (classMethod_within member)
  | interfaceForm =>
      have methods : Within (spaced (rendering.operationMethod subject.element.name operation
            { withBody := false, withParameters := true }))
          (rendering.bareMethods subject true) :=
        within_concat (List.mem_map.mpr ⟨operation, written, rfl⟩)
      have members := (methods.trans (within_append_right
        (rendering.attributeFields subject ++ rendering.endFields subject) _)).trans
          (within_append_left _ nested)
      have holds : HoldsSignature rendering subject.element.name operation
          (rendering.operationMethod subject.element.name operation
            { withBody := false, withParameters := true }) := holdsSignature_method called rfl _
      apply holds.within
      exact (within_withoutFinalBlank members).trans
        ((content_within_block _ _).trans (within_append_right _ _))
  | annotationForm => cases written
  | enumForm => cases written

theorem writes_signature (rendered : unitOf? model options id = some unit)
    (declared : (form, subject) ∈ unitDeclarations model id)
    (written : operation ∈
      writtenOperations (renderingIn model options (namespaceOf model id)) subject form)
    (called : operation.name ≠ "") :
    ∃ ending ∈ ["", ";"], unit.Writes
      ((renderingIn model options (namespaceOf model id)).signature subject.element.name operation {} ++
        ending) := by
  obtain ⟨nested, inside⟩ :=
    @declarations_within_unit (renderingIn model options (namespaceOf model id)) subject form id declared
  obtain ⟨ending, known, within⟩ :=
    ((holdsSignature_declaration written called).within inside).text
  refine ⟨ending, known, ?_⟩
  rw [unitOf?_eq rendered]
  exact SourceUnit.writes_emit within

/-! ### Text of a signature -/

/-- What is written before the name of a parameter. -/
def Rendering.beforeName (rendering : Rendering) (parameter : Parameter) : String :=
  ((rendering.hint? parameter).map (·.text ++ " ")).getD ""

/-- What is written behind the name of a parameter. -/
def afterName (parameter : Parameter) : String :=
  ((parameter.default?.filter (!·.isEmpty)).map (" = " ++ ·)).getD ""

/-- A parameter in a signature is its name between what is written before it and behind it. -/
theorem parameter_parts (rendering : Rendering) (parameter : Parameter) :
    rendering.parameter parameter =
      rendering.beforeName parameter ++ parameterName .code parameter.name ++ afterName parameter := by
  unfold Rendering.parameter Rendering.beforeName afterName
  cases rendering.hint? parameter <;> cases parameter.default?.filter (!·.isEmpty) <;> rfl

/-- An item of a joined list stands in the text. -/
theorem exists_intercalate_eq (between : String) {items : List String} {item : String}
    (member : item ∈ items) :
    ∃ before after, between.intercalate items = before ++ item ++ after := by
  induction items with
  | nil => cases member
  | cons first rest ih =>
      cases rest with
      | nil =>
          rw [List.mem_singleton.mp member]
          exact ⟨"", "", by simp⟩
      | cons second rest =>
          rw [String.intercalate_cons_cons]
          rcases List.mem_cons.mp member with rfl | later
          · exact ⟨"", between ++ between.intercalate (second :: rest), by simp [String.append_assoc]⟩
          · obtain ⟨before, after, joined⟩ := ih later
            refine ⟨first ++ between ++ before, after, ?_⟩
            rw [joined]
            simp only [String.append_assoc]

/-- The last item of a joined list ends the text. -/
theorem exists_intercalate_concat (between : String) (items : List String) (last : String) :
    ∃ before, between.intercalate (items ++ [last]) = before ++ last := by
  cases items with
  | nil => exact ⟨"", by simp⟩
  | cons first rest =>
      refine ⟨between.intercalate (first :: rest) ++ between, ?_⟩
      rw [String.intercalate_append_of_ne_nil (List.cons_ne_nil _ _) (List.cons_ne_nil _ _),
        String.intercalate_singleton]

/-- A signature holds the word `function`, the name of the operation and its parameters, in this order. -/
theorem exists_signature (rendering : Rendering) (owner : String) (operation : Operation) :
    ∃ words, rendering.signature owner operation {} =
      words ++ ("function " ++ operation.name ++ "(" ++
        ", ".intercalate (operation.arguments.map rendering.parameter) ++ ")" ++
          rendering.resultDeclaration owner operation) := by
  obtain ⟨words, modifiers⟩ := exists_intercalate_concat " "
    (operation.visibility.keyword?.toList ++ (if operation.isStatic then ["static"] else []) ++
      (if operation.isAbstract then ["abstract"] else []) ++
      (if operation.isLeaf then ["final"] else [])) "function"
  refine ⟨words, ?_⟩
  rw [Rendering.signature, String.intercalate_append_of_ne_nil (by simp [methodWords])
    (List.cons_ne_nil _ _), String.intercalate_singleton, methodWords, modifiers]
  have word : "function " = "function" ++ " " := rfl
  rw [word]
  simp only [if_true, String.append_assoc]

end Blueprint.Php
