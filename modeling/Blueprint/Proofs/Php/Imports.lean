/-
Module: Blueprint.Proofs.Php.Imports
Purpose: The imports of a unit. Each declaration in a unit needs what it mentions imported, as far as that is outside
  the namespace of the unit, and all of it goes into one header. The header lists every path once, in the order in
  which the paths are mentioned first: of the declarations in the order of the text, and within a declaration group
  by group. Only elements are imported, so that the tags of stereotypes make no difference.
Main exports: eraseDups_concat_of_mem, nodup_eraseDups, eraseDups_flatMap_eraseDups, mentions,
  importCandidates_eq_mentions, imports_declarationIn, Takes.imports_fragment, SourceUnit.barePaths,
  SourceUnit.imports_foldl_addImport_start, SourceUnit.imports_emit_start, Model.withStereotypes,
  imports_unitOf?_withStereotypes, unit_imports_first_mentions
-/
import Blueprint.Proofs.Php.Classifiers
import Blueprint.Proofs.Php.Hint
import Blueprint.Proofs.Php.Inventory

namespace Blueprint

/-- The element that a type is, if it is one. -/
def MemberType.element? : MemberType → Option ElementId
  | element id => some id
  | _ => none

/-- The attributes of an element; only classifiers have any. -/
def Model.attributesOf (model : Model) (id : ElementId) : List Attribute :=
  ((model.classifier? id).map Classifier.attributes).getD []

/-- The operations of an element; only classifiers have any. -/
def Model.operationsOf (model : Model) (id : ElementId) : List Operation :=
  ((model.classifier? id).map Classifier.operations).getD []

/-- The model with other stereotypes of its classifiers. -/
def Model.withStereotypes (model : Model) (stereotypeOf? : ElementId → Option String) : Model :=
  model.mapClassifiers fun id data => { data with stereotype? := stereotypeOf? id }

namespace Php

open Fragment

variable {model : Model} {options : Options} {rendering : Rendering} {subject : Subject} {form : Form}
  {id : ElementId} {ids : List ElementId}

/-! ### First occurrences

Imports are added at the end of a list, so that lists are taken apart from there. -/

section Duplicates

variable {α β : Type} [BEq α] [LawfulBEq α] {before : List α} {last : α}

/-- What occurs again is left out. -/
theorem eraseDups_concat_of_mem (occurs : last ∈ before) : (before ++ [last]).eraseDups = before.eraseDups := by
  have again : [last].removeAll before = [] := by simp [List.removeAll, occurs]
  rw [List.eraseDups_append, again, List.eraseDups_nil, List.append_nil]

/-- What occurs for the first time comes last. -/
theorem eraseDups_concat_of_not_mem (new : last ∉ before) :
    (before ++ [last]).eraseDups = before.eraseDups ++ [last] := by
  have first : [last].removeAll before = [last] := by simp [List.removeAll, new]
  rw [List.eraseDups_append, first]
  rfl

theorem nodup_eraseDups (items : List α) : items.eraseDups.Nodup := by
  induction items using List.reverseRecOn with
  | nil => exact .nil
  | append_singleton before last ih =>
      by_cases occurs : last ∈ before
      · rwa [eraseDups_concat_of_mem occurs]
      · rw [eraseDups_concat_of_not_mem occurs, ← List.concat_eq_append]
        exact ih.concat (List.mem_eraseDups.not.mpr occurs)

/-- It makes no difference whether what is added has lost its repetitions already. -/
theorem eraseDups_append_eraseDups_right (before items : List α) :
    (before ++ items.eraseDups).eraseDups = (before ++ items).eraseDups := by
  induction items using List.reverseRecOn with
  | nil => rfl
  | append_singleton items last ih =>
      rw [← List.append_assoc]
      -- The last item occurs among those that are added, or else among those before them, or for the first time.
      by_cases occurs : last ∈ items
      · rw [eraseDups_concat_of_mem occurs, ih,
          eraseDups_concat_of_mem (List.mem_append_right before occurs)]
      · rw [eraseDups_concat_of_not_mem occurs, ← List.append_assoc]
        by_cases occursBefore : last ∈ before
        · rw [eraseDups_concat_of_mem (List.mem_append_left _ occursBefore), ih,
            eraseDups_concat_of_mem (List.mem_append_left _ occursBefore)]
        · rw [eraseDups_concat_of_not_mem (by simp [occursBefore, occurs]), ih,
            eraseDups_concat_of_not_mem (by simp [occursBefore, occurs])]

/-- It makes no difference whether what is there has lost its repetitions already. -/
theorem eraseDups_append_eraseDups_left (before items : List α) :
    (before.eraseDups ++ items).eraseDups = (before ++ items).eraseDups := by
  induction items using List.reverseRecOn with
  | nil =>
      rw [List.append_nil, List.append_nil]
      exact eraseDups_append_eraseDups_right [] before
  | append_singleton items last ih =>
      have same : last ∈ before.eraseDups ++ items ↔ last ∈ before ++ items := by
        rw [List.mem_append, List.mem_append, List.mem_eraseDups]
      rw [← List.append_assoc, ← List.append_assoc]
      by_cases occurs : last ∈ before ++ items
      · rw [eraseDups_concat_of_mem (same.mpr occurs), ih, eraseDups_concat_of_mem occurs]
      · rw [eraseDups_concat_of_not_mem (same.not.mpr occurs), ih, eraseDups_concat_of_not_mem occurs]

/-- Repetitions within the groups need not be looked at before those among the groups. -/
theorem eraseDups_flatMap_eraseDups (groups : List β) (items : β → List α) :
    (groups.flatMap fun group => (items group).eraseDups).eraseDups = (groups.flatMap items).eraseDups := by
  induction groups with
  | nil => rfl
  | cons group groups ih =>
      rw [List.flatMap_cons, List.flatMap_cons, eraseDups_append_eraseDups_left,
        ← eraseDups_append_eraseDups_right, ih, eraseDups_append_eraseDups_right]

end Duplicates

/-! ### What a declaration mentions -/

/-- The elements in the signature of an operation: the types of its arguments, then that of its result. -/
def signatureElements (operation : Operation) : List ElementId :=
  (operation.arguments ++ operation.result?.toList).filterMap (·.type.element?)

/-- The elements that the declaration of an element mentions, group by group: the types of its attributes, the traits
    that it uses, its superclasses, what it realizes, the types in the signatures of its operations and of those of
    the interfaces among what it realizes, and the stereotypes of the use cases that it owns. -/
def mentions (model : Model) (id : ElementId) : List ElementId :=
  (model.attributesOf id).filterMap (·.type.element?) ++ (traitsOf model id).map TraitUse.target ++
    generalizedBy model id ++ realizedBy model id ++
    ((id :: interfacesOf model id).flatMap model.operationsOf).flatMap signatureElements ++
    useCaseStereotypes model id

/-- The elements that the declaration of an element mentions and that it needs imported; an annotation type needs
    none. -/
def importable (model : Model) (id : ElementId) : List ElementId :=
  if model.kind? id = some .annotationType then [] else mentions model id

theorem attributeTypes_eq (classifier : Classifier) :
    attributeTypes classifier = classifier.attributes.filterMap (·.type.element?) := by
  apply List.filterMap_congr
  intro member _
  cases member.type <;> rfl

theorem operationTypes_eq (model : Model) (operation : Operation) :
    operationTypes model operation = (signatureElements operation).map (qualifiedName model) := by
  rw [operationTypes, signatureElements, List.map_filterMap]
  apply List.filterMap_congr
  intro parameter _
  cases parameter.type <;> rfl

theorem signatureTypes_eq (model : Model) (id : ElementId) : signatureTypes model id =
    (((id :: interfacesOf model id).flatMap model.operationsOf).flatMap signatureElements).map
      (qualifiedName model) := by
  rw [List.map_flatMap, List.flatMap_assoc, signatureTypes]
  simp only [← operationTypes_eq]
  rfl

/-- What a tag names is no element. -/
theorem element?_ofTag (name : String) : (Supertype.ofTag name).element? = none := by
  unfold Supertype.ofTag
  split <;> rfl

/-- The elements among the supertypes of an element are those that relationships lead to; tags name none. -/
theorem filterMap_element?_append {tagged? : String → Option Supertype}
    (named : ∀ tag supertype, tagged? tag = some supertype → ∃ name, supertype = .ofTag name) (tags : List String) :
    (ids.map Supertype.element ++ tags.filterMap tagged?).filterMap Supertype.element? = ids := by
  have none : (tags.filterMap tagged?).filterMap Supertype.element? = [] := by
    rw [List.filterMap_eq_nil_iff]
    intro supertype member
    obtain ⟨tag, -, names⟩ := List.mem_filterMap.mp member
    obtain ⟨name, rfl⟩ := named tag supertype names
    exact element?_ofTag name
  have all : (ids.map Supertype.element).filterMap Supertype.element? = ids := by
    rw [List.filterMap_map]
    exact List.filterMap_some
  rw [List.filterMap_append, all, none, List.append_nil]

theorem elements_superclasses (model : Model) (id : ElementId) :
    (superclasses model id).filterMap Supertype.element? = generalizedBy model id := by
  apply filterMap_element?_append
  intro tag supertype named
  unfold superclassOfTag? at named
  split at named
  · cases named
  · dsimp only at named
    split at named
    · cases named
    · exact ⟨_, (Option.some.inj named).symm⟩

theorem elements_superinterfaces (model : Model) (id : ElementId) :
    (superinterfaces model id).filterMap Supertype.element? = realizedBy model id := by
  apply filterMap_element?_append
  intro tag supertype named
  unfold interfaceOfTag? at named
  split at named
  · cases named
  · exact ⟨tag, (Option.some.inj named).symm⟩

/-- The candidates for imports are the qualified names of what a declaration mentions. -/
theorem importCandidates_eq_mentions (model : Model) (id : ElementId) :
    importCandidates model id = (mentions model id).map (qualifiedName model) := by
  have attributes : ((model.classifier? id).map attributeTypes).getD [] =
      (model.attributesOf id).filterMap (·.type.element?) := by
    rw [Model.attributesOf]
    cases model.classifier? id with
    | none => rfl
    | some classifier => exact attributeTypes_eq classifier
  simp only [importCandidates, mentions, List.map_append, attributes, elements_superclasses, elements_superinterfaces,
    signatureTypes_eq]

/-! ### What the text of a declaration needs imported -/

theorem imports_spaced (fragment : Fragment) : (spaced fragment).imports = fragment.imports :=
  List.append_nil _

theorem imports_docBlock (rendering : Rendering) (text : String) : (rendering.docBlock text).imports = [] := by
  unfold Rendering.docBlock
  split
  · exact imports_concat_map_eq_nil imports_ofText _
  · rfl

theorem imports_field (rendering : Rendering) (member : Variable) : (rendering.field member).imports = [] := by
  unfold Rendering.field
  split
  · rfl
  · rw [imports_append, imports_docBlock, imports_ofText, List.append_nil]

theorem imports_attributeFields (rendering : Rendering) (subject : Subject) :
    (rendering.attributeFields subject).imports = [] :=
  imports_concat_map_eq_nil (fun member => (imports_spaced _).trans (imports_field rendering (.ofAttribute member))) _

theorem imports_endFields (rendering : Rendering) (subject : Subject) : (rendering.endFields subject).imports = [] :=
  imports_concat_map_eq_nil (fun found => (imports_spaced _).trans (imports_field rendering (.ofEnd found))) _

theorem imports_traitUses (rendering : Rendering) (subject : Subject) : (rendering.traitUses subject).imports = [] := by
  unfold Rendering.traitUses
  dsimp only
  split
  · rfl
  · split
    · rfl
    · rw [imports_append, imports_append, imports_deeper, imports_ofText, imports_ofText, List.append_nil,
        List.nil_append]
      exact imports_concat_map_eq_nil (fun mapping => imports_ofText (mapping ++ ";")) _

theorem imports_givenBody (operation : Operation) : (givenBody operation).imports = [] := by
  unfold givenBody
  dsimp only
  split <;> rfl

theorem imports_chainFragment (operation : Operation) : (chainFragment operation).imports = [] := by
  refine imports_concat_map_eq_nil (fun line => ?_) _
  unfold chainLineFragment
  split <;> rfl

theorem imports_enumDeclaration (rendering : Rendering) (subject : Subject) :
    (rendering.enumDeclaration subject).imports =
      importsOf rendering.model subject.id rendering.namespaceName := by
  unfold Rendering.enumDeclaration
  dsimp only
  rw [imports_append, imports_append, imports_docBlock, imports_block, imports_concat_map_eq_nil, List.append_nil,
    List.append_nil]
  · rfl
  · rintro ⟨literal, number⟩
    exact (imports_append _ _).trans (congrArg (· ++ []) (imports_docBlock rendering literal.documentation))

section Loose

variable (loose : rendering.options.strictTypes = false)

include loose

/-- Without hints for parameters, a signature needs nothing imported. -/
theorem signatureImports_eq_nil (operation : Operation) (style : SignatureStyle) :
    rendering.signatureImports operation style = [] := by
  have unhinted : ∀ parameter, rendering.parameterImports parameter = [] := by
    intro parameter
    rw [Rendering.parameterImports, Rendering.hint?, loose]
    rfl
  unfold Rendering.signatureImports
  split
  · rw [List.flatMap_eq_nil_iff]
    exact fun parameter _ => unhinted parameter
  · rfl

theorem imports_method (owner : String) (operation : Operation) (specified : Fragment) (style : SignatureStyle)
    (plain : specified.imports = []) : (rendering.method owner operation specified style).imports = [] := by
  have body : (rendering.methodBody operation specified).imports = [] := by
    unfold Rendering.methodBody
    dsimp only
    split
    · rw [concat_cons, imports_append, imports_ofText]
      exact imports_concat_map_eq_nil imports_ofText _
    · split
      · rw [imports_append, imports_append, plain, imports_blank, imports_ofText]
        rfl
      · exact plain
  unfold Rendering.method
  split
  · rfl
  · simp only [imports_append, imports_docBlock, signatureImports_eq_nil loose]
    split
    · rfl
    · rw [imports_block, body]
      rfl

theorem imports_classMethod (subject : Subject) (method : ClassMethod) :
    (rendering.classMethod subject method).imports = [] := by
  cases method with
  | defaultConstructor =>
      simp only [Rendering.classMethod, Rendering.constructorMethod, imports_append, imports_docBlock, imports_block]
      rfl
  | factory operation => exact imports_method loose _ operation _ _ (imports_chainFragment operation)
  | ordinary operation => exact imports_method loose _ operation _ _ (imports_givenBody operation)

theorem imports_bareMethods (subject : Subject) (withParameters : Bool) :
    (rendering.bareMethods subject withParameters).imports = [] := by
  refine imports_concat_map_eq_nil (fun operation => (imports_spaced _).trans ?_) _
  exact imports_method loose _ operation _ _ (imports_givenBody operation)

/-- Without hints for parameters, a declaration needs imported what it mentions itself, unless it declares an annotation
    type, and then what the declarations nested in it need, unless it declares an enumeration. -/
theorem imports_declarationIn (subject : Subject) (nested : Fragment) (form : Form) :
    (declarationIn rendering subject nested form).imports =
      (if form = .annotationForm then [] else importsOf rendering.model subject.id rendering.namespaceName) ++
        if form = .enumForm then [] else nested.imports := by
  cases form with
  | classForm =>
      have methods := imports_concat_map_eq_nil
        (fun method => (imports_spaced _).trans (imports_classMethod loose subject method))
        (rendering.classMethods subject)
      simp [declarationIn, Rendering.classDeclaration, Rendering.classMembers, Rendering.elementImports, importing,
        imports_withoutFinalBlank, imports_block, imports_docBlock, imports_traitUses, imports_blank,
        imports_attributeFields, imports_endFields, methods]
  | interfaceForm =>
      simp [declarationIn, Rendering.interfaceDeclaration, Rendering.elementImports, importing,
        imports_withoutFinalBlank, imports_block, imports_docBlock, imports_attributeFields, imports_endFields,
        imports_bareMethods loose]
  | annotationForm =>
      simp [declarationIn, Rendering.annotationDeclaration, imports_withoutFinalBlank, imports_block, imports_docBlock,
        imports_blank, imports_attributeFields, imports_bareMethods loose]
  | enumForm =>
      rw [if_pos rfl, List.append_nil]
      exact imports_enumDeclaration rendering subject

end Loose

/-! ### What the declarations of a unit need imported -/

/-- The paths that the declaration of an element needs imported into a unit of the namespace. -/
def neededPaths (model : Model) (namespaceName : String) (id : ElementId) : List String :=
  ((importable model id).map (qualifiedName model)).filter (needsImport · namespaceName)

theorem ofKind_eq_annotationForm {kind : ClassifierKind} :
    Form.ofKind kind = .annotationForm ↔ kind = .annotationType := by
  cases kind <;> simp [Form.ofKind]

theorem importsOf_eq_neededPaths {kind : ClassifierKind} (known : model.kind? id = some kind) (namespaceName : String) :
    (if Form.ofKind kind = .annotationForm then [] else importsOf model id namespaceName) =
      (neededPaths model namespaceName id).eraseDups := by
  simp only [neededPaths, importable, known, ofKind_eq_annotationForm, Option.some.injEq]
  split
  · rfl
  · rw [importsOf, importCandidates_eq_mentions]

/-- What is listed in an inventory needs imported what its declarations need, in the order of the text. -/
theorem Takes.imports_fragment (loose : rendering.options.strictTypes = false) {inventory : Inventory}
    (takes : Takes rendering.model form ids inventory) (around? : Option ElementId) :
    (inventory.fragment rendering).imports = ((inventory.declared around?).map Prod.snd).flatMap fun id =>
      (neededPaths rendering.model rendering.namespaceName id).eraseDups := by
  induction takes generalizing around? with
  | nil => rfl
  | @entry form inner id rest subject inside after nested found within later ihWithin ihLater =>
      obtain ⟨same, -, -⟩ := eq_of_find? found
      obtain ⟨-, kind, -, known, rfl⟩ := exists_subject_of_nestedForm? nested
      rw [Inventory.fragment, imports_append, imports_spaced, imports_declarationIn loose, ihLater around?,
        Inventory.declared, List.map_cons, List.flatMap_cons, List.map_append, List.flatMap_append, same,
        importsOf_eq_neededPaths known, List.append_assoc]
      -- An enumeration takes nothing in, and its inventory declares nothing inside it.
      split
      · rfl
      · rw [ihWithin]
  | omitted hidden later ih => exact ih around?

namespace SourceUnit

/-- A path is imported without the separators at its beginning, unless nothing is left of it or it is imported
    already. -/
theorem imports_addImport (unit : SourceUnit) (path : String) :
    (unit.addImport path).imports =
      if barePath path = "" ∨ barePath path ∈ unit.imports then unit.imports
      else unit.imports ++ [barePath path] := by
  have added : unit.addImport path =
      if (barePath path).isEmpty || unit.imports.contains (barePath path) then unit
      else { unit with imports := unit.imports ++ [barePath path] } := rfl
  simp only [added, Bool.or_eq_true, String.isEmpty_iff, List.contains_iff_mem]
  split <;> rfl

/-- The paths as they are imported: without the separators at their beginnings, as far as anything is left. -/
def barePaths (paths : List String) : List String :=
  (paths.map barePath).filter (!·.isEmpty)

theorem barePaths_of_plain {paths : List String} (plain : ∀ path ∈ paths, path ≠ "" ∧ barePath path = path) :
    barePaths paths = paths := by
  have same : paths.map barePath = paths :=
    (List.map_congr_left fun path member => (plain path member).2).trans (List.map_id' paths)
  rw [barePaths, same, List.filter_eq_self]
  intro path member
  simpa using (plain path member).1

/-- A unit that holds nothing yet imports paths in the order in which they occur first. -/
theorem imports_foldl_addImport_start (indentUnit namespaceName : String) (paths : List String) :
    (paths.foldl addImport (start indentUnit namespaceName)).imports = (barePaths paths).eraseDups := by
  induction paths using List.reverseRecOn with
  | nil => rfl
  | append_singleton before path ih =>
      have last : barePaths (before ++ [path]) =
          if barePath path = "" then barePaths before else barePaths before ++ [barePath path] := by
        by_cases empty : barePath path = "" <;> simp [barePaths, empty]
      -- The last path is compared with those that the unit has already, the first occurrences of the others.
      rw [List.foldl_append, List.foldl_cons, List.foldl_nil, imports_addImport, ih, last]
      simp only [List.mem_eraseDups]
      by_cases empty : barePath path = ""
      · rw [if_pos (.inl empty), if_pos empty]
      · rw [if_neg empty]
        by_cases occurs : barePath path ∈ barePaths before
        · rw [if_pos (.inr occurs), eraseDups_concat_of_mem occurs]
        · rw [if_neg (not_or.mpr ⟨empty, occurs⟩), eraseDups_concat_of_not_mem occurs]

/-- Paths that are not empty and begin with no separator are imported as they stand. -/
theorem imports_emit_start {indentUnit namespaceName : String} {fragment : Fragment}
    (plain : ∀ path ∈ fragment.imports, path ≠ "" ∧ barePath path = path) :
    ((start indentUnit namespaceName).emit fragment).imports = fragment.imports.eraseDups := by
  rw [emit_eq, imports_foldl_addImport_start, barePaths_of_plain plain]

end SourceUnit

/-- What is needed stands below the top level, so that it is imported as it stands. -/
theorem plain_of_mem_neededPaths (named : PackagesNamed model)
    (single : ∀ element ∈ model.elements, ¬Segmented element.name) {namespaceName path : String}
    (needed : path ∈ neededPaths model namespaceName id) : path ≠ "" ∧ SourceUnit.barePath path = path := by
  obtain ⟨member, foreign⟩ := List.mem_filter.mp needed
  obtain ⟨element, -, rfl⟩ := List.mem_map.mp member
  have bare : ¬Segmented (model.nameOf element) := by
    rw [Model.nameOf]
    cases found : model.element? element with
    | none => decide
    | some data => exact single data (Array.mem_of_getElem? found)
  obtain ⟨inside, -⟩ := (needsImport_qualify bare).mp foreign
  exact ⟨qualifiedName_ne_empty inside, SourceUnit.barePath_eq (dropWhile_qualifiedName named inside)⟩

/-! ### Tags import nothing -/

section Stereotypes

variable (model : Model) (stereotypeOf? : ElementId → Option String) (namespaceName : String)

theorem mentions_withStereotypes (id : ElementId) :
    mentions (model.withStereotypes stereotypeOf?) id = mentions model id := by
  have attributes : (model.withStereotypes stereotypeOf?).attributesOf id = model.attributesOf id := by
    rw [Model.attributesOf, Model.withStereotypes, Model.classifier?_mapClassifiers, Option.map_map]
    rfl
  have operations : (model.withStereotypes stereotypeOf?).operationsOf = model.operationsOf := by
    funext owner
    rw [Model.operationsOf, Model.withStereotypes, Model.classifier?_mapClassifiers, Option.map_map]
    rfl
  rw [mentions, attributes, operations, Model.withStereotypes, traitsOf_mapClassifiers, interfacesOf_mapClassifiers,
    useCaseStereotypes_mapClassifiers]
  rfl

theorem importsOf_withStereotypes (id : ElementId) :
    importsOf (model.withStereotypes stereotypeOf?) id namespaceName = importsOf model id namespaceName := by
  have names : qualifiedName (model.withStereotypes stereotypeOf?) = qualifiedName model :=
    funext (qualifiedName_mapClassifiers model _)
  rw [importsOf, importCandidates_eq_mentions, mentions_withStereotypes, names, ← importCandidates_eq_mentions]
  rfl

variable {model} (loose : options.strictTypes = false)

include loose

theorem imports_declareNested_withStereotypes (depth : Nat) (form : Form) (id : ElementId) :
    ((renderingIn (model.withStereotypes stereotypeOf?) options namespaceName).declareNested depth form id).imports =
      ((renderingIn model options namespaceName).declareNested depth form id).imports := by
  let rendering := renderingIn model options namespaceName
  let other := renderingIn (model.withStereotypes stereotypeOf?) options namespaceName
  induction depth generalizing form id with
  | zero => rfl
  | succ depth ih =>
      have found' : Subject.find? other.model id = _ := find?_mapClassifiers model _ id
      cases found : Subject.find? rendering.model id with
      | none =>
          rw [show Subject.find? model id = none from found] at found'
          rw [declareNested_of_absent found, declareNested_of_absent found']
      | some subject =>
          -- The subject has other data, but its identity and what it owns are the same.
          rw [show Subject.find? model id = some subject from found] at found'
          have nested : (nestedIn other depth form
              (subject.element.mapClassifier fun data => { data with stereotype? := stereotypeOf? id })).imports =
              (nestedIn rendering depth form subject.element).imports := by
            rw [nestedIn, nestedIn, imports_concat, imports_concat, List.flatMap_map, List.flatMap_map]
            apply List.flatMap_congr
            intro child _
            have forms : (other.model.element? child).bind (Rendering.nestedForm? form) =
                (rendering.model.element? child).bind (Rendering.nestedForm? form) :=
              nestedForm?_mapClassifiers model _ child form
            rw [forms]
            cases (rendering.model.element? child).bind (Rendering.nestedForm? form) with
            | none => rfl
            | some inner => exact (imports_spaced _).trans ((ih inner child).trans (imports_spaced _).symm)
          have own : importsOf other.model id other.namespaceName =
              importsOf rendering.model id rendering.namespaceName :=
            importsOf_withStereotypes model stereotypeOf? namespaceName id
          rw [declareNested_succ found, declareNested_succ found', imports_declarationIn loose,
            imports_declarationIn loose, nested, (eq_of_find? found).1, own]

theorem imports_declare_withStereotypes (id : ElementId) :
    ((renderingIn (model.withStereotypes stereotypeOf?) options namespaceName).declare id).imports =
      ((renderingIn model options namespaceName).declare id).imports := by
  have kinds : ((model.withStereotypes stereotypeOf?).element? id).bind (·.content.kind?) =
      (model.element? id).bind (·.content.kind?) := model.bind_kind?_mapClassifiers _ id
  have size : (model.withStereotypes stereotypeOf?).elements.size = model.elements.size := model.size_mapClassifiers _
  unfold Rendering.declare Rendering.declareAs
  dsimp only [renderingIn]
  rw [kinds, size]
  cases (model.element? id).bind (·.content.kind?) with
  | none => rfl
  | some kind => exact imports_declareNested_withStereotypes stereotypeOf? namespaceName loose _ _ id

omit namespaceName in
/-- Whatever the stereotypes say, a unit imports the same. -/
theorem imports_unitOf?_withStereotypes (id : ElementId) :
    (unitOf? (model.withStereotypes stereotypeOf?) options id).map SourceUnit.imports =
      (unitOf? model options id).map SourceUnit.imports := by
  have found' : Subject.find? (model.withStereotypes stereotypeOf?) id = _ := find?_mapClassifiers model _ id
  have namespaces : namespaceOf (model.withStereotypes stereotypeOf?) id = namespaceOf model id :=
    namespaceOf_mapClassifiers model _ id
  rw [unitOf?, unitOf?, found', namespaces]
  cases Subject.find? model id with
  | none => rfl
  | some subject =>
      dsimp only [Option.map_some, Element.mapClassifier]
      split
      · rfl
      · rw [Option.map_some, Option.map_some, SourceUnit.emit_eq, SourceUnit.emit_eq,
          imports_declare_withStereotypes stereotypeOf? _ loose]

end Stereotypes

/-! ### The imports of a unit -/

/-- What the declarations of an inventory need imported, one after the other, is needed of all that they mention. -/
theorem flatMap_neededPaths (model : Model) (namespaceName : String) (ids : List ElementId) :
    ids.flatMap (neededPaths model namespaceName) =
      ((ids.flatMap (importable model)).map (qualifiedName model)).filter (needsImport · namespaceName) := by
  rw [List.map_flatMap, List.filter_flatMap]
  rfl

/-- A named classifier has a unit, and an inventory whose text is that of the unit with a blank line after it. -/
theorem exists_unit_inventory (options : Options) (tree : model.IsTree) {element : Element}
    (found : model.element? id = some element) (filled : element.name ≠ "") (classifier : (model.kind? id).isSome) :
    ∃ unit inventory, unitOf? model options id = some unit ∧ Takes model .classForm [id] inventory ∧
      unit.blank = (SourceUnit.start options.indent.unit (namespaceOf model id)).emit
        (inventory.fragment (renderingIn model options (namespaceOf model id))) := by
  let rendering := renderingIn model options (namespaceOf model id)
  have tree' : rendering.model.IsTree := tree
  obtain ⟨form, subject, inside, takes, declares⟩ := exists_inventory tree' found filled classifier
  obtain ⟨unit, rendered⟩ : ∃ unit, unitOf? model options id = some unit := by
    obtain ⟨kind, data, content⟩ := Model.exists_content_of_kind? found classifier
    rw [unitOf?, Subject.find?, found, Option.bind_some, content]
    exact ⟨_, if_neg (by simpa using filled)⟩
  refine ⟨unit, _, rendered, takes, ?_⟩
  rw [unitOf?_eq rendered, declares, Inventory.fragment, Inventory.fragment, spaced, SourceUnit.emit_append,
    SourceUnit.emit_append, SourceUnit.emit_blank, SourceUnit.emit_empty]

/-- The imports of a unit. Let containment be a tree, every package be named, and no name hold a separator. Without
    hints for parameters, a named classifier has a unit, whose text, with a blank line after it, is that of an inventory
    of declarations. It imports, each once and in the order in which they occur first, the paths that need to be
    imported into its namespace among the qualified names of what these declarations mention: the declarations in the
    order of the text, and what each of them mentions group by group, only that annotation types have no imports of
    their own. Whatever the stereotypes say, the imports are the same. -/
theorem unit_imports_first_mentions (tree : model.IsTree) (named : PackagesNamed model)
    (single : ∀ element ∈ model.elements, ¬Segmented element.name) {element : Element}
    (found : model.element? id = some element) (filled : element.name ≠ "") (classifier : (model.kind? id).isSome)
    (loose : options.strictTypes = false) :
    ∃ unit inventory, unitOf? model options id = some unit ∧ unit.namespaceName = namespaceOf model id ∧
      Takes model .classForm [id] inventory ∧
      unit.blank = (SourceUnit.start options.indent.unit unit.namespaceName).emit
        (inventory.fragment (renderingIn model options unit.namespaceName)) ∧
      unit.imports = (((((inventory.declared none).map Prod.snd).flatMap (importable model)).map
        (qualifiedName model)).filter (needsImport · unit.namespaceName)).eraseDups ∧
      unit.imports.Nodup ∧
      ∀ stereotypeOf?, (unitOf? (model.withStereotypes stereotypeOf?) options id).map SourceUnit.imports =
        some unit.imports := by
  obtain ⟨unit, inventory, rendered, takes, text⟩ := exists_unit_inventory options tree found filled classifier
  let rendering := renderingIn model options (namespaceOf model id)
  let start := SourceUnit.start options.indent.unit (namespaceOf model id)
  have needed : (inventory.fragment rendering).imports = _ := Takes.imports_fragment loose takes none
  have plain : ∀ path ∈ (inventory.fragment rendering).imports, path ≠ "" ∧ SourceUnit.barePath path = path := by
    intro path member
    rw [needed] at member
    obtain ⟨other, -, needs⟩ := List.mem_flatMap.mp member
    exact plain_of_mem_neededPaths named single (List.mem_eraseDups.mp needs)
  have imports :=
    calc unit.imports
      _ = unit.blank.imports := rfl
      _ = (start.emit (inventory.fragment rendering)).imports := by rw [text]
      _ = (inventory.fragment rendering).imports.eraseDups := SourceUnit.imports_emit_start plain
      _ = (((inventory.declared none).map Prod.snd).flatMap (neededPaths model (namespaceOf model id))).eraseDups := by
        rw [needed]
        exact eraseDups_flatMap_eraseDups _ _
  rw [flatMap_neededPaths] at imports
  refine ⟨unit, inventory, rendered, namespaceName_unit rendered, takes, ?_, ?_, ?_, ?_⟩
  · rwa [namespaceName_unit rendered]
  · rwa [namespaceName_unit rendered]
  · rw [imports]
    exact nodup_eraseDups _
  · intro stereotypeOf?
    rw [imports_unitOf?_withStereotypes stereotypeOf? loose, rendered, Option.map_some]

/-- An order in a shop, with an annotation type inside it, an entry inside that one, and a state that holds a class in
    vain. All of them mention parts of a library, some of them more than once. -/
def checkout : Model where
  author? := none
  elements := #[
    { id := 0, name := "Project", parent? := none, owned := [1, 9], content := .model },
    { id := 1, name := "Shop", parent? := some 0, owned := [2, 3], content := .package },
    { id := 2, name := "Item", parent? := some 1, content := .classifier .classType {} },
    { id := 3, name := "Order", parent? := some 1, owned := [4, 6, 8], content := .classifier .classType order },
    { id := 4, name := "Audited", parent? := some 3, owned := [5],
      content := .classifier .annotationType (holding 10) },
    { id := 5, name := "Entry", parent? := some 4, content := .classifier .classType (holding 11) },
    { id := 6, name := "State", parent? := some 3, owned := [7], content := .classifier .enumeration (holding 12) },
    { id := 7, name := "Hidden", parent? := some 6, content := .classifier .classType (holding 10) },
    { id := 8, name := "Checkout", parent? := some 3, content := .useCase (some 17) },
    { id := 9, name := "Lib", parent? := some 0, owned := [10, 11, 12, 13, 14, 15, 16, 17], content := .package },
    { id := 10, name := "Clock", parent? := some 9, content := .classifier .classType {} },
    { id := 11, name := "Ledger", parent? := some 9, content := .classifier .classType {} },
    { id := 12, name := "Money", parent? := some 9, content := .classifier .classType {} },
    { id := 13, name := "Person", parent? := some 9, content := .classifier .classType {} },
    { id := 14, name := "Sellable", parent? := some 9, content := .classifier .interface sellable },
    { id := 15, name := "Record", parent? := some 9, content := .classifier .classType {} },
    { id := 16, name := "Logging", parent? := some 9, content := .classifier .classType {} },
    { id := 17, name := "Session", parent? := some 9, content := .classifier .classType {} }]
  relationships := [.realization 3 14, .generalization 3 15, .dependency 3 16 none]
  keys := []
where
  /-- A classifier that holds a value of a type. -/
  holding (type : ElementId) : Classifier := { attributes := [{ name := "held", type := .element type }] }
  /-- The order itself. -/
  order : Classifier :=
    { stereotype? := some "extends Legacy, Marker"
      attributes := [{ name := "total", type := .element 12 }, { name := "item", type := .element 2 }]
      operations := [{ name := "place", parameters := [
        { name := "sum", type := .element 12, direction := .result }, { name := "buyer", type := .element 13 }] }] }
  /-- What can be sold. -/
  sellable : Classifier :=
    { operations := [{ name := "book", parameters := [
        { name := "buyer", type := .element 13 }, { name := "at", type := .element 11 }] }] }

/-- The unit of the order imports what it mentions of the library, but not the clock, which is only mentioned in an
    annotation type and in a class that is not declared. Without the stereotype it imports the same. -/
theorem unit_imports_first_mentions_checkout :
    checkout.IsTree ∧ PackagesNamed checkout ∧ ∃ unit inventory, unitOf? checkout { docs := false } 3 = some unit ∧
      Takes checkout .classForm [3] inventory ∧
      unit.imports = (((((inventory.declared none).map Prod.snd).flatMap (importable checkout)).map
        (qualifiedName checkout)).filter (needsImport · "Shop")).eraseDups ∧
      unit.imports = ["Lib\\Money", "Lib\\Logging", "Lib\\Record", "Lib\\Sellable", "Lib\\Person", "Lib\\Ledger",
        "Lib\\Session"] ∧
      (unitOf? (checkout.withStereotypes fun _ => none) { docs := false } 3).map SourceUnit.imports =
        some unit.imports := by
  have tree : checkout.IsTree := by
    apply Model.isTree_of_ordered <;> decide +kernel
  have named : PackagesNamed checkout := by decide +kernel
  obtain ⟨unit, inventory, rendered, namespaceName, takes, -, imports, -, alike⟩ :=
    unit_imports_first_mentions tree named (by decide +kernel) (show checkout.element? 3 = some _ from rfl)
      (by decide +kernel) (by decide +kernel) (show ({ docs := false } : Options).strictTypes = false from rfl)
  have own : namespaceOf checkout 3 = "Shop" := by decide +kernel
  rw [namespaceName, own] at imports
  have seen : (unitOf? checkout { docs := false } 3).map SourceUnit.imports = some ["Lib\\Money", "Lib\\Logging",
      "Lib\\Record", "Lib\\Sellable", "Lib\\Person", "Lib\\Ledger", "Lib\\Session"] := by
    decide +kernel
  rw [rendered] at seen
  exact ⟨tree, named, unit, inventory, rendered, takes, imports, Option.some.inj seen, alike _⟩

end Php

end Blueprint
