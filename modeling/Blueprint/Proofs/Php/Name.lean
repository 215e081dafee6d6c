/-
Module: Blueprint.Proofs.Php.Name
Purpose: How the parts of a qualified name can be told from one another. A name without a separator is
  the last segment of every qualified name that is made with it, so that a qualified name determines both
  its namespace and its name; therefore a unit imports an element of such a name exactly when the
  element is in a namespace that is neither the unit's own nor the top level.
Main exports: lastSegment, lastSegment_qualify, qualify_left_inj, needsImport_qualify, PackagesNamed,
  head_qualifiedName
-/
import Blueprint.Php.Name

namespace Blueprint.Php

open Text

variable {namespaceName other name path : String} {model : Model}

/-- What follows the last separator of a path; the whole path if it has none. -/
def lastSegment (path : String) : String :=
  String.ofList (path.toList.reverse.takeWhile (· != separatorChar)).reverse

/-- The name holds a separator, so it is no single segment. -/
def Segmented (name : String) : Prop :=
  separatorChar ∈ name.toList

instance (name : String) : Decidable (Segmented name) :=
  inferInstanceAs (Decidable (separatorChar ∈ name.toList))

theorem not_segmented_lastSegment (path : String) : ¬Segmented (lastSegment path) := by
  intro segmented
  have found : separatorChar ∈ path.toList.reverse.takeWhile (· != separatorChar) := by
    simpa [Segmented, lastSegment] using segmented
  have passed := List.all_eq_true.mp List.all_takeWhile _ found
  simp at passed

/-- The characters of a qualified name below the top level. -/
theorem toList_qualify (inside : namespaceName ≠ "") :
    (qualify namespaceName name).toList = namespaceName.toList ++ separatorChar :: name.toList := by
  have filled : namespaceName.isEmpty = false := by simpa using inside
  simp [qualify, filled, separator, separatorChar]

@[simp]
theorem qualify_empty (name : String) : qualify "" name = name := by
  simp [qualify]

/-- Read backwards, a name of one segment is what comes before the first separator. -/
theorem takeWhile_single (single : ¬Segmented name) (rest : List Char)
    (stops : ∀ c, rest.head? = some c → c = separatorChar) :
    (name.toList.reverse ++ rest).takeWhile (· != separatorChar) = name.toList.reverse := by
  have inside : ∀ c ∈ name.toList.reverse, (c != separatorChar) = true := by
    intro c member
    have different : c ≠ separatorChar := by
      rintro rfl
      exact single (List.mem_reverse.mp member)
    simpa using different
  have outside : rest.takeWhile (· != separatorChar) = [] := by
    cases rest with
    | nil => rfl
    | cons c rest => simp [stops c rfl]
  rw [List.takeWhile_append_of_pos inside, outside, List.append_nil]

/-- A name of one segment is the last segment of the qualified name. -/
theorem lastSegment_qualify (single : ¬Segmented name) :
    lastSegment (qualify namespaceName name) = name := by
  by_cases top : namespaceName = ""
  · have cut := takeWhile_single single [] (by simp)
    rw [List.append_nil] at cut
    simp [lastSegment, top, cut]
  · have cut := takeWhile_single single (separatorChar :: namespaceName.toList.reverse) (by simp)
    simp [lastSegment, toList_qualify top, cut]

example : lastSegment "App\\Models\\User" = "User" ∧ lastSegment "User" = "User" := by decide +kernel

theorem lastSegment_of_not_segmented (single : ¬Segmented name) : lastSegment name = name := by
  rw [← qualify_empty name, lastSegment_qualify single, qualify_empty]

theorem lastSegment_qualify_iff : lastSegment (qualify namespaceName name) = name ↔ ¬Segmented name := by
  constructor
  · intro last
    rw [← last]
    exact not_segmented_lastSegment _
  · exact lastSegment_qualify

/-- One name in two namespaces makes two qualified names. -/
theorem qualify_left_inj : qualify namespaceName name = qualify other name ↔ namespaceName = other := by
  constructor
  · intro same
    have characters := congrArg String.toList same
    by_cases top : namespaceName = "" <;> by_cases otherTop : other = ""
    · rw [top, otherTop]
    · rw [top, qualify_empty, toList_qualify otherTop] at characters
      have lengths := congrArg List.length characters
      simp at lengths
      omega
    · rw [otherTop, qualify_empty, toList_qualify top] at characters
      have lengths := congrArg List.length characters
      simp at lengths
      omega
    · rw [toList_qualify top, toList_qualify otherTop] at characters
      exact String.toList_inj.mp (List.append_cancel_right characters)
  · rintro rfl
    rfl

/-- Two names in one namespace make two qualified names. -/
theorem qualify_right_inj : qualify namespaceName name = qualify namespaceName other ↔ name = other := by
  constructor
  · intro same
    by_cases top : namespaceName = ""
    · rwa [top, qualify_empty, qualify_empty] at same
    · have characters := congrArg String.toList same
      rw [toList_qualify top, toList_qualify top] at characters
      exact String.toList_inj.mp (List.cons.inj (List.append_cancel_left characters)).2
  · rintro rfl
    rfl

theorem segmented_qualify (inside : namespaceName ≠ "") : Segmented (qualify namespaceName name) := by
  simp [Segmented, toList_qualify inside]

/-- A qualified name that is made with a name of one segment is segmented below the top level only. -/
theorem segmented_qualify_iff (single : ¬Segmented name) :
    Segmented (qualify namespaceName name) ↔ namespaceName ≠ "" := by
  constructor
  · rintro segmented rfl
    rw [qualify_empty] at segmented
    exact single segmented
  · exact segmented_qualify

/-! ### Imports -/

/-- What follows a namespace in a path is what the path is qualified from. -/
theorem after?_namespace {rest : List Char} (inside : namespaceName ≠ "") :
    after? (namespaceName ++ separator).toList path.toList = some rest ↔
      path = qualify namespaceName (String.ofList rest) := by
  rw [after?_eq_some_iff, ← String.toList_inj, toList_qualify inside]
  simp [separator, separatorChar]

/-- A unit imports an element whose name is one segment exactly when the element is in a namespace that
    is neither the top level nor the unit's own. -/
theorem needsImport_qualify (single : ¬Segmented name) :
    needsImport (qualify namespaceName name) other = true ↔
      namespaceName ≠ "" ∧ namespaceName ≠ other := by
  have seen : needsImport (qualify namespaceName name) other = true ↔
      separatorChar ∈ relativePath (qualify namespaceName name) other := by
    simp [needsImport]
  rw [seen]
  by_cases top : other = ""
  · rw [top, and_self, ← segmented_qualify_iff single]
    rfl
  · have filled : other.isEmpty = false := by simpa using top
    rw [relativePath, filled]
    cases found : after? (other ++ separator).toList (qualify namespaceName name).toList with
    | some rest =>
        -- The path begins with the namespace of the unit; what is left decides.
        rw [after?_namespace top] at found
        have below : namespaceName ≠ "" := by
          rw [← segmented_qualify_iff single, found]
          exact segmented_qualify top
        have left : separatorChar ∈ rest ↔ Segmented (String.ofList rest) := by simp [Segmented]
        rw [and_iff_right below]
        change separatorChar ∈ rest ↔ _
        rw [left]
        constructor
        · rintro segmented rfl
          rw [qualify_right_inj] at found
          exact single (found ▸ segmented)
        · intro different
          apply Classical.byContradiction
          intro restSingle
          have names := congrArg lastSegment found
          rw [lastSegment_qualify single, lastSegment_qualify restSingle] at names
          rw [← names] at found
          exact different (qualify_left_inj.mp found)
    | none =>
        have foreign : namespaceName ≠ other := by
          rintro rfl
          have begins := (after?_namespace top).mpr
            (congrArg (qualify namespaceName) (String.ofList_toList (s := name)).symm)
          rw [begins] at found
          cases found
        rw [and_iff_left foreign, ← segmented_qualify_iff single]
        rfl

/-! ### Names of packages -/

/-- Every package has a name of one segment that is not empty. -/
def PackagesNamed (model : Model) : Prop :=
  ∀ element ∈ model.elements, element.content = .package → element.name ≠ "" ∧ ¬Segmented element.name

instance (model : Model) : Decidable (PackagesNamed model) :=
  inferInstanceAs (Decidable (∀ element ∈ model.elements, _))

theorem named_of_packageNames (named : PackagesNamed model) {depth : Nat} {from? : Option ElementId}
    (member : name ∈ model.packageNames depth from?) : name ≠ "" ∧ ¬Segmented name := by
  induction depth generalizing from? with
  | zero => simp [Model.packageNames] at member
  | succ depth ih =>
      cases from? with
      | none => simp [Model.packageNames] at member
      | some id =>
          rw [Model.packageNames] at member
          split at member
          · rename_i found
            rcases List.mem_append.mp member with outer | own
            · exact ih outer
            · rw [List.mem_singleton] at own
              subst own
              exact named _ (Array.mem_of_getElem? found) rfl
          · simp at member

/-- No namespace begins with a separator. -/
theorem head_namespaceOf (named : PackagesNamed model) (id : ElementId) :
    (namespaceOf model id).toList.head? ≠ some separatorChar := by
  have each := fun name => @named_of_packageNames name model named model.elements.size
    ((model.element? id).bind Element.parent?)
  rw [namespaceOf, Model.packagePath]
  cases names : model.packageNames model.elements.size ((model.element? id).bind Element.parent?) with
  | nil => simp
  | cons first rest =>
      obtain ⟨filled, single⟩ := each first (by simp [names])
      obtain ⟨tail, begins⟩ : ∃ tail, separator.intercalate (first :: rest) = first ++ tail := by
        cases rest with
        | nil => exact ⟨"", by simp⟩
        | cons second rest => exact ⟨_, String.append_assoc .. ▸ String.intercalate_cons_cons⟩
      rw [begins, String.toList_append]
      cases characters : first.toList with
      | nil => exact absurd (String.toList_eq_nil_iff.mp characters) filled
      | cons c characters' =>
          intro starts
          rw [List.cons_append, List.head?_cons, Option.some_inj] at starts
          apply single
          rw [Segmented, characters, starts]
          exact List.mem_cons_self

/-- The qualified name of an element in a package is taken over into the imports as it stands. -/
theorem dropWhile_qualifiedName (named : PackagesNamed model) {id : ElementId}
    (inside : namespaceOf model id ≠ "") :
    (qualifiedName model id).toList.dropWhile (· == '\\') = (qualifiedName model id).toList := by
  rw [qualifiedName, toList_qualify inside]
  cases characters : (namespaceOf model id).toList with
  | nil => exact absurd (String.toList_eq_nil_iff.mp characters) inside
  | cons c characters' =>
      have different : c ≠ separatorChar := by
        rintro rfl
        exact head_namespaceOf named id (by rw [characters, List.head?_cons])
      have kept : (c == '\\') = false := by simpa [separatorChar] using different
      rw [List.cons_append, List.dropWhile_cons_of_neg (by simp [kept])]

end Blueprint.Php
