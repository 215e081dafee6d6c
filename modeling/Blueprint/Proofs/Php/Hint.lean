/-
Module: Blueprint.Proofs.Php.Hint
Purpose: Which element the hint of a parameter refers to. A type of another namespace is written absolutely
  at the top level, and below it by its last segment with an import; a type of the unit's own namespace is
  written bare. The hint refers to the type unless an import of something else ends in the same segment, or
  the import has been left out because the type is called like the namespace of the unit.
Main exports: hintFor_seen_own, hintFor_seen_top, hintFor_seen_below, HintDenotes, mem_imports_of_hint,
  parameter_hints_denote
-/
import Blueprint.Proofs.Php.Denotation
import Blueprint.Proofs.Php.Locality
import Blueprint.Proofs.Php.Signature

namespace Blueprint.Php

variable {model : Model} {options : Options} {rendering : Rendering} {subject : Subject} {form : Form}
  {id element : ElementId} {operation : Operation} {unit : SourceUnit}

/-! ### Hints -/

theorem lastPart_eq (type : String) : lastPart type = lastSegment type := rfl

section Hints

variable {namespaceName : String} (single : ¬Segmented (model.nameOf element))

include single

/-- A type of the unit's own namespace is hinted by its bare name. -/
theorem hintFor_seen_own (own : namespaceOf model element = namespaceName) :
    hintFor namespaceName ((renderingIn model options namespaceName).seen element) =
      ⟨model.nameOf element, []⟩ := by
  have seen : (renderingIn model options namespaceName).seen element = model.nameOf element := if_pos own
  have none : separatorCount (model.nameOf element) = 0 := List.count_eq_zero.mpr single
  rw [seen, hintFor, none]
  rfl

/-- A type at the top level is hinted by its absolute name. -/
theorem hintFor_seen_top (top : namespaceOf model element = "") (foreign : namespaceName ≠ "") :
    hintFor namespaceName ((renderingIn model options namespaceName).seen element) =
      ⟨separator ++ qualifiedName model element, []⟩ := by
  have seen : (renderingIn model options namespaceName).seen element =
      separator ++ qualifiedName model element := if_neg (by rw [renderingIn, top]; exact foreign.symm)
  have one : separatorCount (separator ++ qualifiedName model element) = 1 := by
    have rest : (model.nameOf element).toList.count separatorChar = 0 := List.count_eq_zero.mpr single
    simp [separatorCount, qualifiedName, top, separator, separatorChar] at rest ⊢
    exact rest
  rw [seen, hintFor, one]
  rfl

/-- A type of any other namespace is hinted by its name and imported, unless it is called like the namespace
    of the unit. -/
theorem hintFor_seen_below (inside : namespaceOf model element ≠ "")
    (foreign : namespaceOf model element ≠ namespaceName) :
    hintFor namespaceName ((renderingIn model options namespaceName).seen element) =
      ⟨model.nameOf element,
        if qualifiedName model element = namespaceName then []
        else [separator ++ qualifiedName model element]⟩ := by
  have seen : (renderingIn model options namespaceName).seen element =
      separator ++ qualifiedName model element := if_neg foreign
  have characters : (separator ++ qualifiedName model element).toList =
      separatorChar :: ((namespaceOf model element).toList ++ separatorChar :: (model.nameOf element).toList) := by
    rw [String.toList_append, qualifiedName, toList_qualify inside]
    rfl
  have several : separatorCount (separator ++ qualifiedName model element) > 1 := by
    rw [separatorCount, characters, List.count_cons_self, List.count_append, List.count_cons_self]
    omega
  have last : lastPart (separator ++ qualifiedName model element) = model.nameOf element := by
    have joined : separator ++ qualifiedName model element =
        qualify (separator ++ namespaceOf model element) (model.nameOf element) := by
      apply String.toList_inj.mp
      rw [characters, toList_qualify (by simp [separator]), String.toList_append]
      rfl
    rw [lastPart_eq, joined, lastSegment_qualify single]
  have same : separator ++ qualifiedName model element = separator ++ namespaceName ↔
      qualifiedName model element = namespaceName := String.append_right_inj _
  rw [seen, hintFor, if_pos several, last]
  simp only [same]

end Hints

/-! ### Types among the candidates for imports -/

section Candidates

variable {parameter : Parameter} {classifier : Classifier}

/-- The type of a parameter of an operation that an element declares, or that one of its interfaces does. -/
theorem mem_signatureTypes {holder : ElementId} (holds : holder ∈ id :: interfacesOf model id)
    (found : model.classifier? holder = some classifier) (declared : operation ∈ classifier.operations)
    (taken : parameter ∈ operation.arguments) (typed : parameter.type = .element element) :
    qualifiedName model element ∈ signatureTypes model id := by
  apply List.mem_flatMap.mpr
  refine ⟨holder, holds, ?_⟩
  rw [found]
  apply List.mem_flatMap.mpr
  refine ⟨operation, declared, ?_⟩
  apply List.mem_filterMap.mpr
  refine ⟨parameter, List.mem_append_left _ taken, ?_⟩
  rw [typed]

theorem mem_importCandidates_of_signature
    (mentioned : qualifiedName model element ∈ signatureTypes model id) :
    qualifiedName model element ∈ importCandidates model id := by
  simp only [importCandidates, List.mem_append]
  exact .inl (.inr mentioned)

theorem mem_importCandidates_of_attribute {attr : Attribute}
    (found : model.classifier? id = some classifier) (declared : attr ∈ classifier.attributes)
    (typed : attr.type = .element element) : qualifiedName model element ∈ importCandidates model id := by
  have mentioned : element ∈ ((model.classifier? id).map attributeTypes).getD [] := by
    rw [found]
    exact mem_attributeTypes.mpr ⟨attr, declared, typed⟩
  simp only [importCandidates, List.mem_append]
  exact .inl (.inl (.inl (.inl (.inl (List.mem_map_of_mem mentioned)))))

/-- Candidates for imports are the types of the parameters of all operations that a declaration writes, but
    for those that a superclass leaves to be implemented. -/
theorem mem_importCandidates_of_parameter {namespaceName : String}
    (declared : (form, subject) ∈ unitDeclarations model id)
    (written : operation ∈ writtenOperations (renderingIn model options namespaceName) subject form)
    (taken : parameter ∈ operation.arguments) (typed : parameter.type = .element element)
    (own : operation ∉ abstractOverrides model subject.id) :
    qualifiedName model element ∈ importCandidates model subject.id := by
  have real := classifier?_of_unitDeclarations declared
  have ofDeclared : operation ∈ subject.classifier.operations →
      qualifiedName model element ∈ importCandidates model subject.id := fun declares =>
    mem_importCandidates_of_signature (mem_signatureTypes List.mem_cons_self real declares taken typed)
  cases form with
  | classForm =>
      obtain ⟨method, member, written⟩ := List.mem_filterMap.mp written
      rcases mem_classMethods_operation member written with
        declares | ⟨attr, declares, accessor⟩ | tagged | stub | override
      · exact ofDeclared declares
      · have inside := List.mem_of_mem_filter taken
        obtain ⟨-, rfl | rfl, -⟩ := mem_accessors.mp accessor
        · rcases List.mem_cons.mp inside with rfl | result
          · exact mem_importCandidates_of_attribute real declares typed
          · split at result
            · cases result
            · rw [List.mem_singleton.mp result] at typed
              cases typed
        · rw [List.mem_singleton.mp inside] at typed
          exact mem_importCandidates_of_attribute real declares typed
      · obtain ⟨source, -, rfl⟩ := (gathered_stereotypeMethods subject.classifier).source operation tagged
        rw [List.mem_singleton.mp (List.mem_of_mem_filter taken)] at typed
        cases typed
      · obtain ⟨_, target, data, required, _, realized, found, declares, _, rfl⟩ := mem_interfaceStubs stub
        have asRequired : parameter ∈ required.arguments := taken
        exact mem_importCandidates_of_signature
          (mem_signatureTypes (List.mem_cons_of_mem _ realized) found declares asRequired typed)
      · exact absurd override own
  | interfaceForm => exact ofDeclared written
  | annotationForm => cases written
  | enumForm => cases written

end Candidates

/-! ### What a hint denotes -/

/-- What a hint denotes in a unit: a name that begins with a separator is absolute, and any other denotes
    what it does in a clause. -/
inductive HintDenotes (imports : List String) (namespaceName : String) : (hint path : String) → Prop where
  | absolute {path : String} : HintDenotes imports namespaceName (separator ++ path) path
  | relative {name path : String} (bare : name.toList.head? ≠ some separatorChar)
      (denotes : Denotes imports namespaceName name path) : HintDenotes imports namespaceName name path

theorem hintDenotes_iff {imports : List String} {namespaceName name path : String}
    (single : ¬Segmented name) :
    HintDenotes imports namespaceName name path ↔ Denotes imports namespaceName name path := by
  constructor
  · intro hinted
    cases hinted with
    | absolute => exact absurd (by simp [Segmented, separator, separatorChar]) single
    | relative bare denotes => exact denotes
  · intro denotes
    apply HintDenotes.relative _ denotes
    intro begins
    exact single (List.mem_of_mem_head? begins)

/-- A hint is that of the type as it is written. -/
theorem hint_eq {namespaceName : String} {parameter : Parameter} {hint : Hint}
    (byName : (renderingIn model options namespaceName).typeText parameter.shape .code false =
      (renderingIn model options namespaceName).seen element)
    (hinted : (renderingIn model options namespaceName).hint? parameter = some hint) :
    hint = hintFor namespaceName ((renderingIn model options namespaceName).seen element) := by
  unfold Rendering.hint? at hinted
  split at hinted
  · cases hinted
  · dsimp only at hinted
    split at hinted
    · cases hinted
    · rw [byName] at hinted
      exact (Option.some.inj hinted).symm

section Parameters

variable {parameter : Parameter} {hint : Hint} (named : PackagesNamed model)
  (rendered : unitOf? model options id = some unit)
  (declared : (form, subject) ∈ unitDeclarations model id)
  (written : operation ∈
    writtenOperations (renderingIn model options (namespaceOf model id)) subject form)
  (called : operation.name ≠ "") (taken : parameter ∈ operation.arguments)

include named rendered declared written called taken

/-- What a parameter needs imported is imported by the unit, without the separator at its beginning. -/
theorem mem_imports_of_parameter (inside : namespaceOf model element ≠ "")
    (needed : separator ++ qualifiedName model element ∈
      (renderingIn model options (namespaceOf model id)).parameterImports parameter) :
    qualifiedName model element ∈ unit.imports := by
  obtain ⟨nested, within⟩ :=
    @declarations_within_unit (renderingIn model options (namespaceOf model id)) subject form id declared
  have imports := ((holdsSignature_declaration written called).within within).imports
  have member : separator ++ qualifiedName model element ∈
      (renderingIn model options (namespaceOf model id)).signatureImports operation {} :=
    List.mem_flatMap.mpr ⟨parameter, taken, needed⟩
  have bare : SourceUnit.barePath (separator ++ qualifiedName model element) =
      qualifiedName model element := by
    have stripped : (separator ++ qualifiedName model element).toList.dropWhile (· == '\\') =
        (qualifiedName model element).toList := by
      rw [String.toList_append]
      exact dropWhile_qualifiedName named inside
    rw [SourceUnit.barePath, stripped, String.ofList_toList]
  rw [unitOf?_eq rendered, ← bare]
  apply SourceUnit.barePath_mem_imports_emit (imports.imports member)
  rw [bare]
  exact qualifiedName_ne_empty inside

/-- The type of a parameter that is neither at the top level nor of the unit's own namespace is imported,
    unless it is called like that namespace and stands in an operation of the superclass only. -/
theorem mem_imports_of_hint (typed : parameter.type = .element element)
    (single : ¬Segmented (model.nameOf element))
    (byName : (renderingIn model options (namespaceOf model id)).typeText parameter.shape .code false =
      (renderingIn model options (namespaceOf model id)).seen element)
    (hinted : (renderingIn model options (namespaceOf model id)).hint? parameter = some hint)
    (inside : namespaceOf model element ≠ "") (foreign : namespaceOf model element ≠ namespaceOf model id)
    (own : qualifiedName model element = namespaceOf model id →
      operation ∉ abstractOverrides model subject.id) :
    qualifiedName model element ∈ unit.imports := by
  by_cases likeUnit : qualifiedName model element = namespaceOf model id
  · have declares : form ≠ .annotationForm := by
      rintro rfl
      cases written
    apply mem_imports_of_candidate named rendered declared declares single inside foreign
    exact mem_importCandidates_of_parameter declared written taken typed (own likeUnit)
  · apply mem_imports_of_parameter named rendered declared written called taken inside
    have text := hint_eq byName hinted
    rw [hintFor_seen_below single inside foreign, if_neg likeUnit] at text
    rw [Rendering.parameterImports, hinted, text]
    exact List.mem_cons_self

end Parameters

/-- The hint of a parameter stands before its name in the signature of the operation. -/
theorem exists_signature_eq (owner : String) {parameter : Parameter} {hint : Hint}
    (taken : parameter ∈ operation.arguments) (hinted : rendering.hint? parameter = some hint) :
    ∃ before after, rendering.signature owner operation {} =
      before ++ (hint.text ++ " " ++ parameterName .code parameter.name) ++ after := by
  have written : rendering.parameter parameter =
      hint.text ++ " " ++ parameterName .code parameter.name ++ afterName parameter := by
    rw [parameter_parts, Rendering.beforeName, hinted]
    rfl
  obtain ⟨before, after, arguments⟩ :=
    exists_intercalate_eq ", " (List.mem_map_of_mem (f := rendering.parameter) taken)
  obtain ⟨words, signature⟩ := exists_signature rendering owner operation
  refine ⟨words ++ ("function " ++ operation.name ++ "(" ++ before),
    afterName parameter ++ after ++ ")" ++ rendering.resultDeclaration owner operation, ?_⟩
  rw [signature, arguments, written]
  simp only [String.append_assoc]

/-- Hints for parameters. The unit of a classifier holds, in each of its declarations, the signature of
    every named operation that the declaration has, whether declared, synthesized or left by a supertype;
    and in the signature the hint stands before the name of the parameter. Where the hint is the name of an
    element of the model, it denotes that element exactly when

    * the element is at the top level and the unit is not, or
    * it is in the namespace of the unit or imported, and no import of anything else ends in its name.

    An element that is neither at the top level nor in the namespace of the unit is imported; only one that
    is called like that namespace is not, when no operation but one of the superclass mentions it. -/
theorem parameter_hints_denote (named : PackagesNamed model)
    (rendered : unitOf? model options id = some unit)
    (declared : (form, subject) ∈ unitDeclarations model id)
    (written : operation ∈
      writtenOperations (renderingIn model options (namespaceOf model id)) subject form)
    (called : operation.name ≠ "") {parameter : Parameter} (taken : parameter ∈ operation.arguments)
    (typed : parameter.type = .element element) (single : ¬Segmented (model.nameOf element))
    (byName : (renderingIn model options (namespaceOf model id)).typeText parameter.shape .code false =
      (renderingIn model options (namespaceOf model id)).seen element) {hint : Hint}
    (hinted : (renderingIn model options (namespaceOf model id)).hint? parameter = some hint) :
    (∃ before after, ∃ ending ∈ ["", ";"], unit.Writes
      (before ++ (hint.text ++ " " ++ parameterName .code parameter.name) ++ after ++ ending)) ∧
    (HintDenotes unit.imports unit.namespaceName hint.text (qualifiedName model element) ↔
      (namespaceOf model element = "" ∧ unit.namespaceName ≠ "") ∨
      (namespaceOf model element = unit.namespaceName ∨ qualifiedName model element ∈ unit.imports) ∧
        ∀ path ∈ unit.imports, lastSegment path = model.nameOf element →
          path = qualifiedName model element) ∧
    (namespaceOf model element ≠ "" → namespaceOf model element ≠ unit.namespaceName →
      (qualifiedName model element = unit.namespaceName →
        operation ∉ abstractOverrides model subject.id) →
      qualifiedName model element ∈ unit.imports) := by
  have text := hint_eq byName hinted
  rw [namespaceName_unit rendered]
  refine ⟨?_, ?_, ?_⟩
  · obtain ⟨ending, known, writes⟩ := writes_signature rendered declared written called
    obtain ⟨before, after, signature⟩ := exists_signature_eq subject.element.name taken hinted
    rw [signature] at writes
    exact ⟨before, after, ending, known, writes⟩
  · by_cases foreignTop : namespaceOf model element = "" ∧ namespaceOf model id ≠ ""
    · obtain ⟨top, foreign⟩ := foreignTop
      rw [text, hintFor_seen_top single top foreign]
      exact iff_of_true .absolute (.inl ⟨top, foreign⟩)
    · have bare : hint.text = model.nameOf element := by
        rw [text]
        by_cases own : namespaceOf model element = namespaceOf model id
        · rw [hintFor_seen_own single own]
        · have inside : namespaceOf model element ≠ "" := by
            intro top
            apply foreignTop
            refine ⟨top, ?_⟩
            intro topUnit
            exact own (top.trans topUnit.symm)
          rw [hintFor_seen_below single inside own]
      have localMeaning : qualifiedName model element = qualify (namespaceOf model id) (model.nameOf element) ↔
          namespaceOf model element = namespaceOf model id := qualify_left_inj
      have last : lastSegment (qualifiedName model element) = model.nameOf element :=
        lastSegment_qualify single
      rw [bare, hintDenotes_iff single, denotes_iff, localMeaning, last, or_iff_right foreignTop]
      simp only [and_true]
  · intro inside foreign own
    exact mem_imports_of_hint named rendered declared written called taken typed single byName hinted inside
      foreign own

/-- A report in the namespace `App\Models` is sent by a mailer of another namespace. Its superclass leaves an
    operation to be implemented for the class `App\Models`, which is called like that namespace. -/
def reports : Model where
  author? := none
  elements := #[
    { id := 0, name := "Project", parent? := none, owned := [1, 6], content := .model },
    { id := 1, name := "App", parent? := some 0, owned := [2, 3, 4], content := .package },
    { id := 2, name := "Models", parent? := some 1, content := .classifier .classType {} },
    { id := 3, name := "Base", parent? := some 1, content := .classifier .classType base },
    { id := 4, name := "Models", parent? := some 1, owned := [5], content := .package },
    { id := 5, name := "Report", parent? := some 4, content := .classifier .classType report },
    { id := 6, name := "Shared", parent? := some 0, owned := [7], content := .package },
    { id := 7, name := "Mailer", parent? := some 6, content := .classifier .classType {} }]
  relationships := [.generalization 5 3]
  keys := []
where
  /-- The superclass. -/
  base : Classifier :=
    { operations := [{ name := "bind", isAbstract := true, parameters := [{ name := "m", type := .element 2 }] }] }
  /-- The report itself. -/
  report : Classifier :=
    { operations := [{ name := "send", parameters := [{ name := "by", type := .element 7 }] }] }

/-- The hint for the mailer denotes it; the hint for the class called like the namespace does not. -/
theorem parameter_hints_denote_reports :
    PackagesNamed reports ∧ ∃ unit, unitOf? reports { strictTypes := true } 5 = some unit ∧
      HintDenotes unit.imports unit.namespaceName "Mailer" "Shared\\Mailer" ∧
      ¬HintDenotes unit.imports unit.namespaceName "Models" "App\\Models" := by
  let options : Options := { strictTypes := true }
  have named : PackagesNamed reports := by decide +kernel
  obtain ⟨unit, rendered⟩ : ∃ unit, unitOf? reports options 5 = some unit :=
    Option.isSome_iff_exists.mp (by decide +kernel)
  have seen : (unitOf? reports options 5).map (fun unit => (unit.namespaceName, unit.imports)) =
      some ("App\\Models", ["App\\Base", "Shared\\Mailer"]) := by
    decide +kernel
  rw [rendered] at seen
  obtain ⟨namespaceName, imports⟩ := Prod.mk.inj (Option.some.inj seen)
  let report : Subject :=
    ⟨5, { id := 5, name := "Report", parent? := some 4, content := .classifier .classType reports.report },
      reports.report⟩
  have declared : (Form.classForm, report) ∈ unitDeclarations reports 5 := by
    have all : unitDeclarations reports 5 = [(Form.classForm, report)] := rfl
    rw [all]
    exact List.mem_cons_self
  let rendering := renderingIn reports options (namespaceOf reports 5)
  have send : { name := "send", parameters := [{ name := "by", type := .element 7 }] } ∈
      writtenOperations rendering report .classForm := by
    decide +kernel
  have bind : { name := "bind", parameters := [{ name := "m", type := .element 2 }] } ∈
      writtenOperations rendering report .classForm := by
    decide +kernel
  have mailerHinted : rendering.hint? { name := "by", type := .element 7 } =
      some ⟨"Mailer", ["\\Shared\\Mailer"]⟩ := by
    decide +kernel
  have modelsHinted : rendering.hint? { name := "m", type := .element 2 } = some ⟨"Models", []⟩ := by
    decide +kernel
  obtain ⟨-, mailer, -⟩ := parameter_hints_denote named rendered declared send (by decide) List.mem_cons_self rfl
    (by decide +kernel) (by decide +kernel) mailerHinted
  obtain ⟨-, models, -⟩ := parameter_hints_denote named rendered declared bind (by decide) List.mem_cons_self rfl
    (by decide +kernel) (by decide +kernel) modelsHinted
  have paths : qualifiedName reports 7 = "Shared\\Mailer" ∧ qualifiedName reports 2 = "App\\Models" := by
    decide +kernel
  rw [namespaceName, imports] at mailer models
  rw [paths.1] at mailer
  rw [paths.2] at models
  refine ⟨named, unit, rendered, ?_, ?_⟩
  · rw [namespaceName, imports, mailer]
    decide +kernel
  · rw [namespaceName, imports, models]
    decide +kernel

end Blueprint.Php
