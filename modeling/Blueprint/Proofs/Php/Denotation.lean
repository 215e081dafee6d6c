/-
Module: Blueprint.Proofs.Php.Denotation
Purpose: Which element a name in a clause refers to. A name without separators denotes the import of
  which it is the last segment, or else that name in the namespace of the unit. The clauses of a
  declaration name an element by its bare name, while the choice of imports goes by qualified names;
  the two meet for all elements but those at the top level, seen from a namespace, and those whose
  name an import of another element takes.
Main exports: Denotes, denotes_iff, qualifiedName_mem_imports, clause_names_denote
-/
import Blueprint.Proofs.Php.Declaration
import Blueprint.Proofs.Php.Name

namespace Blueprint.Php

/-- What a name without separators denotes in a unit. A name that is the last segment of two different
    imports denotes nothing. -/
inductive Denotes (imports : List String) (namespaceName name : String) : String → Prop where
  | imported {path : String} (member : path ∈ imports) (last : lastSegment path = name)
      (only : ∀ other ∈ imports, lastSegment other = name → other = path) :
      Denotes imports namespaceName name path
  | relative (free : ∀ path ∈ imports, lastSegment path ≠ name) :
      Denotes imports namespaceName name (qualify namespaceName name)

/-- A name denotes a path when no import of another path ends in it and the path is either the local
    meaning of the name or imported. -/
theorem denotes_iff {imports : List String} {namespaceName name path : String} :
    Denotes imports namespaceName name path ↔
      (path = qualify namespaceName name ∨ path ∈ imports ∧ lastSegment path = name) ∧
        ∀ other ∈ imports, lastSegment other = name → other = path := by
  constructor
  · intro denotes
    cases denotes with
    | imported member last only => exact ⟨.inr ⟨member, last⟩, only⟩
    | relative free => exact ⟨.inl rfl, fun other member last => absurd last (free other member)⟩
  · rintro ⟨meaning, only⟩
    by_cases taken : ∃ other ∈ imports, lastSegment other = name
    · obtain ⟨other, member, last⟩ := taken
      have same := only other member last
      subst same
      exact .imported member last only
    · have free : ∀ other ∈ imports, lastSegment other ≠ name := fun other member last =>
        taken ⟨other, member, last⟩
      rcases meaning with rfl | ⟨member, last⟩
      · exact .relative free
      · exact absurd last (free path member)

variable {model : Model} {options : Options} {id element : ElementId} {unit : SourceUnit}

theorem namespaceName_unit (rendered : unitOf? model options id = some unit) :
    unit.namespaceName = namespaceOf model id := by
  rw [unitOf?_eq rendered, SourceUnit.emit_eq]
  rfl

theorem qualifiedName_ne_empty (inside : namespaceOf model element ≠ "") :
    qualifiedName model element ≠ "" := by
  intro empty
  have characters := congrArg String.toList empty
  rw [qualifiedName, toList_qualify inside] at characters
  simp at characters

/-- A candidate for imports that is called by one segment is imported, if it is in a namespace that is
    neither the top level nor that of the unit. -/
theorem mem_imports_of_candidate (named : PackagesNamed model)
    (rendered : unitOf? model options id = some unit) {form : Form} {subject : Subject}
    (declared : (form, subject) ∈ unitDeclarations model id) (declares : form ≠ .annotationForm)
    (single : ¬Segmented (model.nameOf element)) (inside : namespaceOf model element ≠ "")
    (foreign : namespaceOf model element ≠ namespaceOf model id)
    (candidate : qualifiedName model element ∈ importCandidates model subject.id) :
    qualifiedName model element ∈ unit.imports := by
  have chosen : qualifiedName model element ∈ importsOf model subject.id (namespaceOf model id) := by
    rw [importsOf, List.mem_eraseDups, List.mem_filter]
    exact ⟨candidate, (needsImport_qualify single).mpr ⟨inside, foreign⟩⟩
  exact mem_imports rendered declared declares chosen (qualifiedName_ne_empty inside)
    (dropWhile_qualifiedName named inside)

/-- An element that a clause names by one segment is imported if it is in a namespace that is neither the
    top level nor that of the unit. -/
theorem qualifiedName_mem_imports (named : PackagesNamed model)
    (rendered : unitOf? model options id = some unit) {form : Form} {subject : Subject}
    (declared : (form, subject) ∈ unitDeclarations model id)
    (mentioned : element ∈ (clausesOf model subject.id form).elements)
    (single : ¬Segmented (model.nameOf element)) (inside : namespaceOf model element ≠ "")
    (foreign : namespaceOf model element ≠ unit.namespaceName) :
    qualifiedName model element ∈ unit.imports := by
  have declares : form ≠ .annotationForm := by
    rintro rfl
    cases mentioned
  rw [namespaceName_unit rendered] at foreign
  exact mem_imports_of_candidate named rendered declared declares single inside foreign
    (mem_importCandidates mentioned)

/-- Names in clauses. The unit of a classifier holds the declaration of that classifier, and of every
    declaration in it the header and the clause that names traits. An element that these name by its
    bare name is what that name denotes exactly when

    * it is in the namespace of the unit, or else it is below the top level and its name is one segment
      (a name that is itself imported will also do), and
    * no import of anything else ends in its name. -/
theorem clause_names_denote (named : PackagesNamed model)
    (rendered : unitOf? model options id = some unit) :
    (∃ form subject, (form, subject) ∈ unitDeclarations model id ∧ subject.id = id) ∧
    ∀ form subject, (form, subject) ∈ unitDeclarations model id →
      unit.Writes (headerText model options subject form) ∧
      ((clausesOf model subject.id form).used ≠ [] → ∃ ending ∈ [";", " \x7b"], unit.Writes
        ("use " ++ ", ".intercalate ((clausesOf model subject.id form).used.map model.nameOf) ++
          ending)) ∧
      ∀ element ∈ (clausesOf model subject.id form).elements,
        Denotes unit.imports unit.namespaceName (model.nameOf element) (qualifiedName model element) ↔
          (namespaceOf model element = unit.namespaceName ∨
            ¬Segmented (model.nameOf element) ∧
              (namespaceOf model element ≠ "" ∨ model.nameOf element ∈ unit.imports)) ∧
          ∀ path ∈ unit.imports, lastSegment path = model.nameOf element →
            path = qualifiedName model element := by
  refine ⟨mem_unitDeclarations rendered, fun form subject declared => ⟨?_, ?_, ?_⟩⟩
  · exact writes_header rendered declared
  · exact writes_traits rendered declared
  · intro element mentioned
    rw [denotes_iff]
    apply and_congr_left
    intro only
    have localMeaning : qualifiedName model element = qualify unit.namespaceName (model.nameOf element) ↔
        namespaceOf model element = unit.namespaceName := qualify_left_inj
    have lastOne : lastSegment (qualifiedName model element) = model.nameOf element ↔
        ¬Segmented (model.nameOf element) := lastSegment_qualify_iff
    rw [localMeaning, lastOne]
    constructor
    · rintro (own | ⟨imported, single⟩)
      · exact .inl own
      · refine .inr ⟨single, ?_⟩
        by_cases top : namespaceOf model element = ""
        · right
          rw [qualifiedName, top, qualify_empty] at imported
          exact imported
        · exact .inl top
    · rintro (own | ⟨single, inside | imported⟩)
      · exact .inl own
      · by_cases own : namespaceOf model element = unit.namespaceName
        · exact .inl own
        · have imported := qualifiedName_mem_imports named rendered declared mentioned single inside own
          exact .inr ⟨imported, single⟩
      · have same := only _ imported (lastSegment_of_not_segmented single)
        rw [same] at imported
        exact .inr ⟨imported, single⟩

/-- An order in a package extends a class at the top level, realizes an interface of another package, and
    uses a trait of its own package; one of its attributes is of another class called like that trait. -/
def orders : Model where
  author? := none
  elements := #[
    { id := 0, name := "Project", parent? := none, owned := [1, 4, 7], content := .model },
    { id := 1, name := "App", parent? := some 0, owned := [2, 3], content := .package },
    { id := 2, name := "Order", parent? := some 1, content := .classifier .classType order },
    { id := 3, name := "Tools", parent? := some 1, content := .classifier .classType {} },
    { id := 4, name := "Shared", parent? := some 0, owned := [5, 6], content := .package },
    { id := 5, name := "Shown", parent? := some 4, content := .classifier .interface {} },
    { id := 6, name := "Tools", parent? := some 4, content := .classifier .classType {} },
    { id := 7, name := "Root", parent? := some 0, content := .classifier .classType {} }]
  relationships := [.generalization 2 7, .realization 2 5, .dependency 2 3 none]
  keys := []
where
  /-- The order itself. -/
  order : Classifier := { attributes := [{ name := "tools", type := .element 6 }] }

/-- Of the three, only the interface is what its bare name denotes: the class is looked for in the
    package of the order, and the trait is taken for the imported class. -/
theorem clause_names_denote_orders :
    PackagesNamed orders ∧ ∃ unit, unitOf? orders {} 2 = some unit ∧
      unit.Writes "class Order extends Root implements Shown" ∧
      Denotes unit.imports unit.namespaceName "Shown" "Shared\\Shown" ∧
      ¬Denotes unit.imports unit.namespaceName "Root" "Root" ∧
      ¬Denotes unit.imports unit.namespaceName "Tools" "App\\Tools" := by
  have named : PackagesNamed orders := by decide +kernel
  obtain ⟨unit, rendered⟩ : ∃ unit, unitOf? orders {} 2 = some unit :=
    Option.isSome_iff_exists.mp (by decide +kernel)
  have seen : (unitOf? orders {} 2).map (fun unit => (unit.namespaceName, unit.imports)) =
      some ("App", ["Shared\\Tools", "Shared\\Shown"]) := by
    decide +kernel
  rw [rendered] at seen
  obtain ⟨namespaceName, imports⟩ := Prod.mk.inj (Option.some.inj seen)
  let order : Subject :=
    ⟨2, { id := 2, name := "Order", parent? := some 1, content := .classifier .classType orders.order },
      orders.order⟩
  have declared : (Form.classForm, order) ∈ unitDeclarations orders 2 := by
    have all : unitDeclarations orders 2 = [(Form.classForm, order)] := rfl
    rw [all]
    exact List.mem_cons_self
  have elements : (clausesOf orders 2 .classForm).elements = [7, 5, 3] := by decide +kernel
  obtain ⟨header, -, names⟩ := (clause_names_denote named rendered).2 .classForm order declared
  rw [elements, namespaceName, imports] at names
  refine ⟨named, unit, rendered, ?_, ?_, ?_, ?_⟩
  · have text : headerText orders {} order .classForm = "class Order extends Root implements Shown" := by
      decide +kernel
    rwa [text] at header
  · have shown := names 5 (by simp)
    have called : orders.nameOf 5 = "Shown" ∧ qualifiedName orders 5 = "Shared\\Shown" := by
      decide +kernel
    rw [called.1, called.2] at shown
    rw [namespaceName, imports, shown]
    decide +kernel
  · have root := names 7 (by simp)
    have called : orders.nameOf 7 = "Root" ∧ qualifiedName orders 7 = "Root" := by decide +kernel
    rw [called.1, called.2] at root
    rw [namespaceName, imports, root]
    decide +kernel
  · have tools := names 3 (by simp)
    have called : orders.nameOf 3 = "Tools" ∧ qualifiedName orders 3 = "App\\Tools" := by decide +kernel
    rw [called.1, called.2] at tools
    rw [namespaceName, imports, tools]
    decide +kernel

end Blueprint.Php
