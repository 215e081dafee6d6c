/-
Module: Blueprint.Proofs.Php.Qualification
Purpose: How types are qualified against what is imported. A type that refers to an element is written by its bare
  name in the element's own namespace and absolutely elsewhere, and it is imported if something is left of its path
  besides the namespace of the unit and its name. One of these looks at namespaces and the other one at paths, and
  yet they agree: imported are exactly the elements whose types have several separators, which are those below the
  top level and outside the namespace of the unit.
Main exports: meaning, meaning_seen, one_lt_separatorCount_seen_iff, typeText_eq_seen, qualification_decides_imports
-/
import Blueprint.Proofs.Php.Hint
import Mathlib.Tactic.TFAE

namespace Blueprint.Php

variable {model : Model} {scope : Scope} {shape : Shape} {id : ElementId} {namespaceName : String}

/-- What a type stands for in a namespace without imports: an absolute one for what follows the separator at its
    beginning, and any other one for that name in the namespace. -/
def meaning (namespaceName type : String) : String :=
  match type.toList with
  | '\\' :: path => String.ofList path
  | _ => qualify namespaceName type

/-! ### Elements as seen from a scope -/

theorem seen_of_own (own : namespaceOf scope.model id = scope.namespaceName) :
    scope.seen id = scope.model.nameOf id :=
  if_pos own

theorem seen_of_foreign (foreign : namespaceOf scope.model id ≠ scope.namespaceName) :
    scope.seen id = separator ++ qualifiedName scope.model id :=
  if_neg foreign

section Single

variable (single : ¬Segmented (scope.model.nameOf id))

include single

/-- However an element is seen, it is the element that is meant. -/
theorem meaning_seen : meaning scope.namespaceName (scope.seen id) = qualifiedName scope.model id := by
  by_cases own : namespaceOf scope.model id = scope.namespaceName
  · rw [seen_of_own own, meaning]
    split
    · rename_i path characters
      refine absurd ?_ single
      rw [Segmented, characters]
      exact List.mem_cons_self
    · rw [qualifiedName, own]
  · rw [seen_of_foreign own, meaning, String.toList_append]
    exact String.ofList_toList

/-- An element is seen with several separators exactly if it is neither at the top level nor in the namespace of the
    scope. -/
theorem one_lt_separatorCount_seen_iff : 1 < separatorCount (scope.seen id) ↔
    namespaceOf scope.model id ≠ "" ∧ namespaceOf scope.model id ≠ scope.namespaceName := by
  have bare : (scope.model.nameOf id).toList.count separatorChar = 0 := List.count_eq_zero.mpr single
  by_cases own : namespaceOf scope.model id = scope.namespaceName
  · rw [seen_of_own own, separatorCount, bare]
    simp [own]
  · have absolute : (separator ++ qualifiedName scope.model id).toList =
        separatorChar :: (qualifiedName scope.model id).toList := by
      rw [String.toList_append]
      rfl
    rw [seen_of_foreign own, separatorCount, absolute, List.count_cons_self]
    by_cases top : namespaceOf scope.model id = ""
    · rw [qualifiedName, top, qualify_empty, bare]
      simp
    · rw [qualifiedName, toList_qualify top, List.count_append, List.count_cons_self, bare]
      simp [top, own]

omit single in
/-- Only an element of that name is written like the word for objects. -/
theorem seen_ne_object (other : scope.model.nameOf id ≠ "object") : scope.seen id ≠ "object" := by
  by_cases own : namespaceOf scope.model id = scope.namespaceName
  · rwa [seen_of_own own]
  · rw [seen_of_foreign own]
    intro same
    have characters := congrArg String.toList same
    rw [String.toList_append] at characters
    cases characters

end Single

/-- The type of a single value that refers to an element is the element as it is seen. -/
theorem typeText_eq_seen (named : scope.model.nameOf id ≠ "") (other : scope.model.nameOf id ≠ "object")
    (typed : shape.type = .element id) (one : shape.multiplicity.isMany = false)
    (plain : shape.default? ≠ some "[]") : scope.typeText (some shape) .code false = scope.seen id := by
  have value : scope.valueType shape false = scope.seen id := by
    have filled : (scope.model.nameOf id).isEmpty = false := by simpa using named
    simp [Scope.valueType, typed, filled]
  have type : scope.memberType shape .code false = scope.seen id := by
    rw [Scope.memberType, value]
    simp [one, plain]
  simp only [Scope.typeText, type, seen_ne_object other, if_false]

/-- A hint is shortened exactly if the type has several separators: what is left of it has none. -/
theorem text_hintFor_ne_iff {type : String} :
    (hintFor namespaceName type).text ≠ type ↔ 2 ≤ separatorCount type := by
  rw [hintFor]
  split
  · rename_i several
    refine iff_of_true ?_ several
    intro short
    have segmented : ¬Segmented type := by
      rw [← show lastSegment type = type from short]
      exact not_segmented_lastSegment type
    apply segmented
    exact List.count_pos_iff.mp (Nat.lt_of_succ_lt several)
  · rename_i few
    exact iff_of_false (fun short => short rfl) few

/-- Qualification and imports. Let a single value that does not start as an empty array refer to an element whose name
    is one segment, and not the word for objects. Seen from any namespace, the following are the same: the path of
    the element has to be imported; the element is neither at the top level nor in that namespace; the type of the
    value has several separators; a hint for the type is shortened. And the type always means the element. -/
theorem qualification_decides_imports (named : model.nameOf id ≠ "") (single : ¬Segmented (model.nameOf id))
    (other : model.nameOf id ≠ "object") (typed : shape.type = .element id)
    (one : shape.multiplicity.isMany = false) (plain : shape.default? ≠ some "[]") (namespaceName : String) :
    let type := Scope.typeText ⟨model, namespaceName⟩ (some shape) .code false
    List.TFAE [
      needsImport (qualifiedName model id) namespaceName = true,
      namespaceOf model id ≠ "" ∧ namespaceOf model id ≠ namespaceName,
      2 ≤ separatorCount type,
      (hintFor namespaceName type).text ≠ type] ∧
    meaning namespaceName type = qualifiedName model id := by
  let scope : Scope := ⟨model, namespaceName⟩
  have seen : scope.typeText (some shape) .code false = scope.seen id :=
    typeText_eq_seen named other typed one plain
  rw [show Scope.typeText ⟨model, namespaceName⟩ (some shape) .code false = scope.seen id from seen]
  refine ⟨?_, meaning_seen single⟩
  tfae_have 1 ↔ 2 := needsImport_qualify single
  tfae_have 3 ↔ 2 := one_lt_separatorCount_seen_iff single
  tfae_have 4 ↔ 3 := text_hintFor_ne_iff
  tfae_finish

/-- Tools in a package inside another one, a helper in a package that is only spelled alike, and a class at the top
    level. -/
def toolkit : Model where
  author? := none
  elements := #[
    { id := 0, name := "Project", parent? := none, owned := [1, 4, 6], content := .model },
    { id := 1, name := "App", parent? := some 0, owned := [2], content := .package },
    { id := 2, name := "Tools", parent? := some 1, owned := [3], content := .package },
    { id := 3, name := "Saw", parent? := some 2, content := .classifier .classType {} },
    { id := 4, name := "AppTools", parent? := some 0, owned := [5], content := .package },
    { id := 5, name := "Helper", parent? := some 4, content := .classifier .classType {} },
    { id := 6, name := "Root", parent? := some 0, content := .classifier .classType {} }]
  relationships := []
  keys := []
where
  /-- A parameter that is a saw. -/
  saw : Parameter := { name := "saw", type := .element 3 }
  /-- A parameter of the class at the top level. -/
  root : Parameter := { name := "root", type := .element 6 }

/-- The saw has to be imported into the package around its own and into the one that is spelled alike, but not into
    its own; the class at the top level has to be imported nowhere, and its type is absolute. -/
theorem qualification_decides_imports_toolkit :
    needsImport "App\\Tools\\Saw" "App" = true ∧ needsImport "App\\Tools\\Saw" "AppTools" = true ∧
      needsImport "App\\Tools\\Saw" "App\\Tools" = false ∧ needsImport "Root" "App" = false ∧
      2 ≤ separatorCount (Scope.typeText ⟨toolkit, "AppTools"⟩ toolkit.saw.shape .code false) ∧
      meaning "App" (Scope.typeText ⟨toolkit, "App"⟩ toolkit.root.shape .code false) = "Root" := by
  have saw := qualification_decides_imports (show toolkit.nameOf 3 ≠ "" by decide +kernel) (by decide +kernel)
    (by decide +kernel) (show toolkit.saw.shape.type = .element 3 from rfl) rfl (by decide)
  have root := qualification_decides_imports (show toolkit.nameOf 6 ≠ "" by decide +kernel) (by decide +kernel)
    (by decide +kernel) (show toolkit.root.shape.type = .element 6 from rfl) rfl (by decide)
  have paths : qualifiedName toolkit 3 = "App\\Tools\\Saw" ∧ qualifiedName toolkit 6 = "Root" := by decide +kernel
  rw [paths.1] at saw
  rw [paths.2] at root
  refine ⟨?_, ?_, ?_, ?_, ?_, (root "App").2⟩
  · exact ((saw "App").1.out 0 1).mpr (by decide +kernel)
  · exact ((saw "AppTools").1.out 0 1).mpr (by decide +kernel)
  · rw [Bool.eq_false_iff]
    exact fun imported => absurd (((saw "App\\Tools").1.out 0 1).mp imported) (by decide +kernel)
  · rw [Bool.eq_false_iff]
    exact fun imported => absurd (((root "App").1.out 0 1).mp imported) (by decide +kernel)
  · exact ((saw "AppTools").1.out 2 1).mpr (by decide +kernel)

end Blueprint.Php
