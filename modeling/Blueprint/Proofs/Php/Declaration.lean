/-
Module: Blueprint.Proofs.Php.Declaration
Purpose: What stands in a unit. The unit of a classifier holds the declaration of that classifier and
  those nested in it, each with a header and, for a class, a clause that names its traits. The names
  after the keywords of these clauses come from the relationships of the declared element; whatever a
  declaration needs imported, the unit imports.
Main exports: Clauses, clausesOf, headerText, declarations, unitDeclarations, mem_unitDeclarations,
  writes_header, writes_traits, mem_imports, mem_importCandidates
-/
import Blueprint.Php.Declaration
import Blueprint.Proofs.Model.Elements
import Blueprint.Proofs.Php.Fragment

namespace Blueprint.Php

variable {model : Model} {options : Options} {rendering : Rendering} {subject : Subject}
  {form inner : Form} {id : ElementId} {nested : Fragment}

/-- A subject is its element with its classifier. -/
theorem eq_of_find? (found : Subject.find? model id = some subject) :
    subject.id = id ∧ model.element? id = some subject.element ∧
      model.classifier? id = some subject.classifier := by
  obtain ⟨element, place, isClassifier⟩ := Option.bind_eq_some_iff.mp found
  obtain ⟨classifier, content, rfl⟩ := Option.map_eq_some_iff.mp isClassifier
  refine ⟨rfl, place, ?_⟩
  rw [Model.classifier?, place, Option.bind_some, content]

/-! ### Clauses -/

/-- What the clauses of a declaration name: after `extends`, after `implements`, and as traits. -/
structure Clauses where
  extended : List Supertype
  implemented : List Supertype
  used : List ElementId

/-- The elements among the names of the clauses. -/
def Clauses.elements (clauses : Clauses) : List ElementId :=
  (clauses.extended ++ clauses.implemented).filterMap Supertype.element? ++ clauses.used

/-- The clauses of the declaration of an element in a form: a class extends its first superclass only,
    an interface extends all of them, and the other forms name no element. -/
def clausesOf (model : Model) (id : ElementId) : Form → Clauses
  | .classForm =>
    { extended := (superclasses model id).head?.toList
      implemented := superinterfaces model id
      used := (traitsOf model id).map TraitUse.target }
  | .interfaceForm => { extended := superclasses model id, implemented := [], used := [] }
  | .annotationForm | .enumForm => { extended := [], implemented := [], used := [] }

/-- A keyword and the names after it; nothing when there are no names. -/
def clauseText (keyword : String) (names : List String) : String :=
  if names.isEmpty then "" else " " ++ (keyword ++ " " ++ ", ".intercalate names)

/-- The header of a declaration up to its clauses. -/
def heading (options : Options) (subject : Subject) : Form → String
  | .classForm =>
    " ".intercalate (classWords subject.classifier ++
      [if subject.classifier.isMarked "trait" then "trait" else "class", subject.element.name])
  | .interfaceForm => "interface " ++ subject.element.name
  | .annotationForm =>
    " ".intercalate (classWords subject.classifier ++ ["@interface", subject.element.name])
  | .enumForm =>
    match options.enumStyle with
    | .native => "enum " ++ subject.element.name
    | .splEnum => "class " ++ subject.element.name ++ " extends \\SplEnum"

/-- The header of a declaration. -/
def headerText (model : Model) (options : Options) (subject : Subject) (form : Form) : String :=
  let clauses := clausesOf model subject.id form
  heading options subject form ++ clauseText "extends" (clauses.extended.map (Supertype.name model)) ++
    clauseText "implements" (clauses.implemented.map (Supertype.name model))

theorem intercalate_append_optional (words : List String) (filled : words ≠ []) (keyword : String)
    (names : List String) :
    " ".intercalate (words ++ if names.isEmpty then [] else [keyword ++ " " ++ ", ".intercalate names]) =
      " ".intercalate words ++ clauseText keyword names := by
  unfold clauseText
  split
  · rw [List.append_nil, String.append_empty]
  · rw [String.intercalate_append_of_ne_nil filled (List.cons_ne_nil _ _), String.intercalate_singleton,
      String.append_assoc]

theorem classHeader_eq (rendering : Rendering) (subject : Subject) :
    rendering.classHeader subject =
      headerText rendering.model rendering.options subject .classForm := by
  let names := List.map (Supertype.name rendering.model)
  have extending : ∀ first? : Option Supertype,
      first?.toList.map (fun parent => "extends " ++ parent.name rendering.model) =
        if (names first?.toList).isEmpty then []
        else ["extends" ++ " " ++ ", ".intercalate (names first?.toList)] := by
    intro first?
    cases first? with
    | none => rfl
    | some first => simp [names]
  have implementing : ∀ interfaces : List Supertype,
      (if interfaces.isEmpty then [] else ["implements " ++ ", ".intercalate (names interfaces)]) =
        if (names interfaces).isEmpty then []
        else ["implements" ++ " " ++ ", ".intercalate (names interfaces)] := by
    intro interfaces
    rw [List.isEmpty_map]
    rfl
  unfold Rendering.classHeader
  dsimp only
  rw [extending, implementing, intercalate_append_optional _ (by simp),
    intercalate_append_optional _ (by simp)]
  rfl

theorem interfaceHeader_eq (rendering : Rendering) (subject : Subject) :
    rendering.interfaceHeader subject =
      headerText rendering.model rendering.options subject .interfaceForm := by
  have words : " " ++ "extends " = " extends " := rfl
  simp [Rendering.interfaceHeader, headerText, heading, clausesOf, clauseText, ← String.append_assoc,
    words]

/-! ### One declaration -/

/-- The declaration of a subject in a form, around the nested declarations. -/
def declarationIn (rendering : Rendering) (subject : Subject) (nested : Fragment) : Form → Fragment
  | .classForm => rendering.classDeclaration subject nested
  | .interfaceForm => rendering.interfaceDeclaration subject nested
  | .annotationForm => rendering.annotationDeclaration subject nested
  | .enumForm => rendering.enumDeclaration subject

open Fragment

theorem header_within (rendering : Rendering) (subject : Subject) (nested : Fragment) (form : Form) :
    Within (ofText (headerText rendering.model rendering.options subject form))
      (declarationIn rendering subject nested form) := by
  cases form with
  | classForm =>
      rw [← classHeader_eq]
      exact (header_within_block _ _).trans (within_append_right _ _)
  | interfaceForm =>
      rw [← interfaceHeader_eq]
      exact (header_within_block _ _).trans (within_append_right _ _)
  | annotationForm =>
      have bare : headerText rendering.model rendering.options subject .annotationForm =
          heading rendering.options subject .annotationForm := by
        simp [headerText, clausesOf, clauseText]
      rw [bare]
      exact (header_within_block _ _).trans (within_append_right _ _)
  | enumForm =>
      have bare : headerText rendering.model rendering.options subject .enumForm =
          heading rendering.options subject .enumForm := by
        simp [headerText, clausesOf, clauseText]
      rw [bare]
      simp only [declarationIn, Rendering.enumDeclaration, heading]
      cases rendering.options.enumStyle with
      | native => exact (header_within_block _ _).trans (within_append_right _ _)
      | splEnum => exact (header_within_block _ _).trans (within_append_right _ _)

theorem imports_within (nested : Fragment) (declares : form ≠ .annotationForm) :
    Within (rendering.elementImports subject) (declarationIn rendering subject nested form) := by
  cases form with
  | classForm => exact (within_append_left _ _).trans (within_append_left _ _)
  | interfaceForm => exact (within_append_left _ _).trans (within_append_left _ _)
  | annotationForm => exact absurd rfl declares
  | enumForm => exact (within_append_left _ _).trans (within_append_left _ _)

/-- Nested declarations stand in the declaration around them. -/
theorem nested_within {part : Fragment} (declares : form ≠ .enumForm)
    (member : Within (spaced part) nested) :
    Within part (declarationIn rendering subject nested form) := by
  have last : ∀ members : Fragment, Within part (members ++ nested).withoutFinalBlank := fun members =>
    within_withoutFinalBlank (member.trans (within_append_right members nested))
  cases form with
  | classForm => exact (last _).trans ((content_within_block _ _).trans (within_append_right _ _))
  | interfaceForm => exact (last _).trans ((content_within_block _ _).trans (within_append_right _ _))
  | annotationForm => exact (last _).trans ((content_within_block _ _).trans (within_append_right _ _))
  | enumForm => exact absurd rfl declares

/-- The traits of a class stand in its declaration, in a clause that ends there or opens a block. -/
theorem traits_within (rendering : Rendering) (subject : Subject) (nested : Fragment)
    (any : traitsOf rendering.model subject.id ≠ []) :
    ∃ ending ∈ [";", " \x7b"],
      Within
        (ofText ("use " ++ ", ".intercalate
          ((traitsOf rendering.model subject.id).map fun use => rendering.model.nameOf use.target) ++
          ending))
        (declarationIn rendering subject nested .classForm) := by
  have inside :
      Within (rendering.traitUses subject) (declarationIn rendering subject nested .classForm) := by
    have followed :
        Within (rendering.traitUses subject ++ blank) (rendering.classMembers subject nested) :=
      (within_append_left _ _).trans ((within_append_left _ _).trans
        ((within_append_left _ _).trans (within_append_left _ _)))
    exact (within_withoutFinalBlank followed).trans
      ((content_within_block _ _).trans (within_append_right _ _))
  have filled : (traitsOf rendering.model subject.id).isEmpty = false := by simpa using any
  unfold Rendering.traitUses at inside
  simp only [filled, Bool.false_eq_true, if_false] at inside
  split at inside
  · exact ⟨";", by simp, inside⟩
  · exact ⟨" \x7b", by simp, ((within_append_left _ _).trans (within_append_left _ _)).trans inside⟩

/-! ### All declarations of a unit -/

/-- The declarations that the declaration of an element holds, itself first, each with its form. -/
def declarations (model : Model) : (depth : Nat) → Form → ElementId → List (Form × Subject)
  | 0, _, _ => []
  | depth + 1, form, id =>
    match Subject.find? model id with
    | none => []
    | some subject =>
      (form, subject) ::
        if form = .enumForm then []
        else subject.element.owned.flatMap fun child =>
          match (model.element? child).bind (Rendering.nestedForm? form) with
          | some inner => declarations model depth inner child
          | none => []

/-- What the declaration of an element has nested in it. -/
def nestedIn (rendering : Rendering) (depth : Nat) (form : Form) (element : Element) : Fragment :=
  concat (element.owned.map fun child =>
    match (rendering.model.element? child).bind (Rendering.nestedForm? form) with
    | some inner => spaced (rendering.declareNested depth inner child)
    | none => .empty)

theorem declareNested_succ {depth : Nat} (found : Subject.find? rendering.model id = some subject) :
    rendering.declareNested (depth + 1) form id =
      declarationIn rendering subject (nestedIn rendering depth form subject.element) form := by
  rw [Rendering.declareNested, found]
  cases form <;> rfl

/-- What is no classifier has no declaration. -/
theorem declareNested_of_absent {depth : Nat} (absent : Subject.find? rendering.model id = none) :
    rendering.declareNested depth form id = .empty := by
  cases depth with
  | zero => rfl
  | succ depth => rw [Rendering.declareNested, absent]

theorem within_nestedIn {depth : Nat} {element : Element} {child : ElementId}
    (owned : child ∈ element.owned)
    (nests : (rendering.model.element? child).bind (Rendering.nestedForm? form) = some inner) :
    Within (spaced (rendering.declareNested depth inner child))
      (nestedIn rendering depth form element) := by
  apply within_concat
  refine List.mem_map.mpr ⟨child, owned, ?_⟩
  rw [nests]

/-- Each of these declarations stands in the declaration of the element. -/
theorem declarations_within {depth : Nat}
    (member : (inner, subject) ∈ declarations rendering.model depth form id) :
    ∃ nested, Within (declarationIn rendering subject nested inner)
      (rendering.declareNested depth form id) := by
  induction depth generalizing form id with
  | zero => cases member
  | succ depth ih =>
      rw [declarations] at member
      cases found : Subject.find? rendering.model id with
      | none =>
          rw [found] at member
          cases member
      | some outer =>
          rw [found] at member
          rw [declareNested_succ found]
          rcases List.mem_cons.mp member with same | later
          · cases same
            exact ⟨_, Within.refl _⟩
          · split at later
            · cases later
            · rename_i declares
              obtain ⟨child, owned, deeper⟩ := List.mem_flatMap.mp later
              cases nests : (rendering.model.element? child).bind (Rendering.nestedForm? form) with
              | none =>
                  rw [nests] at deeper
                  cases deeper
              | some childForm =>
                  rw [nests] at deeper
                  obtain ⟨innermost, within⟩ := ih deeper
                  exact ⟨innermost, within.trans (nested_within declares (within_nestedIn owned nests))⟩

/-- The declarations that the unit of an element holds. -/
def unitDeclarations (model : Model) (id : ElementId) : List (Form × Subject) :=
  match (model.element? id).bind (·.content.kind?) with
  | some kind => declarations model model.elements.size (.ofKind kind) id
  | none => []

/-- The declarations of a unit are declarations of elements of the model. -/
theorem find?_of_declarations {depth : Nat} {inner : Form}
    (member : (inner, subject) ∈ declarations model depth form id) :
    Subject.find? model subject.id = some subject := by
  induction depth generalizing form id with
  | zero => cases member
  | succ depth ih =>
      rw [declarations] at member
      cases found : Subject.find? model id with
      | none =>
          rw [found] at member
          cases member
      | some outer =>
          rw [found] at member
          rcases List.mem_cons.mp member with same | later
          · cases same
            rw [(eq_of_find? found).1]
            exact found
          · split at later
            · cases later
            · obtain ⟨child, _, deeper⟩ := List.mem_flatMap.mp later
              split at deeper
              · exact ih deeper
              · cases deeper

theorem classifier?_of_unitDeclarations (declared : (form, subject) ∈ unitDeclarations model id) :
    model.classifier? subject.id = some subject.classifier := by
  unfold unitDeclarations at declared
  split at declared
  · exact (eq_of_find? (find?_of_declarations declared)).2.2
  · cases declared

/-- A unit is in the namespace of its classifier and holds the declaration of it. -/
theorem unitOf?_eq {unit : SourceUnit} (rendered : unitOf? model options id = some unit) :
    unit = (SourceUnit.start options.indent.unit (namespaceOf model id)).emit
      ((renderingIn model options (namespaceOf model id)).declare id) := by
  unfold unitOf? at rendered
  split at rendered
  · cases rendered
  · split at rendered
    · cases rendered
    · cases rendered
      rfl

/-- The unit holds the declaration of the classifier itself. -/
theorem mem_unitDeclarations {unit : SourceUnit} (rendered : unitOf? model options id = some unit) :
    ∃ form subject, (form, subject) ∈ unitDeclarations model id ∧ subject.id = id := by
  unfold unitOf? at rendered
  split at rendered
  · cases rendered
  · rename_i subject found
    have whole := found
    unfold Subject.find? at found
    cases known : model.element? id with
    | none =>
        rw [known] at found
        cases found
    | some element =>
        rw [known] at found
        cases content : element.content with
        | model | package | useCase => simp [content, Content.classifier?] at found
        | classifier kind classifier =>
            simp only [Option.bind_some, content, Content.classifier?, Option.map_some,
              Option.some.injEq] at found
            refine ⟨.ofKind kind, subject, ?_, found ▸ rfl⟩
            obtain ⟨depth, size⟩ := Model.exists_size_eq_succ (Option.isSome_of_eq_some known)
            simp [unitDeclarations, known, content, Content.kind?, size, declarations, whole]

theorem declarations_within_unit (member : (form, subject) ∈ unitDeclarations rendering.model id) :
    ∃ nested, Within (declarationIn rendering subject nested form) (rendering.declare id) := by
  cases known : (rendering.model.element? id).bind (·.content.kind?) with
  | none =>
      rw [unitDeclarations, known] at member
      cases member
  | some kind =>
      rw [unitDeclarations, known] at member
      rw [Rendering.declare, known]
      exact declarations_within member

section Units

variable {unit : SourceUnit} (rendered : unitOf? model options id = some unit)
  (member : (form, subject) ∈ unitDeclarations model id)

include rendered member

theorem writes_header : unit.Writes (headerText model options subject form) := by
  obtain ⟨nested, inside⟩ :=
    @declarations_within_unit (renderingIn model options (namespaceOf model id)) subject form id member
  rw [unitOf?_eq rendered]
  have header := header_within (renderingIn model options (namespaceOf model id)) subject nested form
  exact SourceUnit.writes_emit (header.trans inside)

theorem writes_traits (any : (clausesOf model subject.id form).used ≠ []) :
    ∃ ending ∈ [";", " \x7b"], unit.Writes
      ("use " ++ ", ".intercalate ((clausesOf model subject.id form).used.map model.nameOf) ++ ending) := by
  obtain ⟨nested, inside⟩ :=
    @declarations_within_unit (renderingIn model options (namespaceOf model id)) subject form id member
  cases form with
  | classForm =>
      have traits : traitsOf model subject.id ≠ [] := fun none => any (by simp [clausesOf, none])
      obtain ⟨ending, known, within⟩ :=
        traits_within (renderingIn model options (namespaceOf model id)) subject nested traits
      refine ⟨ending, known, ?_⟩
      rw [unitOf?_eq rendered, clausesOf, List.map_map]
      exact SourceUnit.writes_emit (within.trans inside)
  | interfaceForm => exact absurd rfl any
  | annotationForm => exact absurd rfl any
  | enumForm => exact absurd rfl any

/-- What the declarations of a unit need imported is imported by the unit. -/
theorem mem_imports {path : String} (declares : form ≠ .annotationForm)
    (imported : path ∈ importsOf model subject.id (namespaceOf model id)) (filled : path ≠ "")
    (bare : path.toList.dropWhile (· == '\\') = path.toList) : path ∈ unit.imports := by
  obtain ⟨nested, inside⟩ :=
    @declarations_within_unit (renderingIn model options (namespaceOf model id)) subject form id member
  have within := (imports_within nested declares).trans inside
  rw [unitOf?_eq rendered]
  exact SourceUnit.mem_imports_emit (within.imports imported) filled bare

end Units

/-- The qualified names of the elements that the clauses name are candidates for imports. -/
theorem mem_importCandidates {element : ElementId}
    (named : element ∈ (clausesOf model id form).elements) :
    qualifiedName model element ∈ importCandidates model id := by
  cases form with
  | classForm =>
      simp only [Clauses.elements, clausesOf, List.filterMap_append, List.mem_append] at named
      simp only [importCandidates, List.mem_append]
      rcases named with (first | implemented) | used
      · obtain ⟨supertype, leads, isElement⟩ := List.mem_filterMap.mp first
        have superclass := List.mem_of_mem_head? (Option.mem_toList.mp leads)
        have extended := List.mem_filterMap.mpr ⟨supertype, superclass, isElement⟩
        exact .inl (.inl (.inl (.inr (List.mem_map_of_mem extended))))
      · exact .inl (.inl (.inr (List.mem_map_of_mem implemented)))
      · exact .inl (.inl (.inl (.inl (.inr (List.mem_map_of_mem used)))))
  | interfaceForm =>
      simp only [Clauses.elements, clausesOf, List.append_nil] at named
      simp only [importCandidates, List.mem_append]
      exact .inl (.inl (.inl (.inr (List.mem_map_of_mem named))))
  | annotationForm => cases named
  | enumForm => cases named

end Blueprint.Php
