/-
Module: Blueprint.Proofs.Regeneration
Purpose: Generating again. Whatever is in memory, generating into it a second time changes nothing more, also where
  several classifiers have one path; and at the paths for which nothing is generated, everything stays as it
  was.
Main exports: directoryEntry_key_ne, fileEntry_key_ne, regeneration_is_idempotent
-/
import Blueprint.Proofs.Collection
import Blueprint.Proofs.Output.Repetition

namespace Blueprint

open Output (Call Logged Memory Notice OutputError PathPart Store Target parts)
open Php (Options)

variable {model : Model} {options : Options} {base : ElementId} {makers : List (ElementId × List String)}
  {calls : List Call} {key : List PathPart}

namespace Arranges

variable (arranged : Arranges model options [base] [] makers calls)

include arranged

/-- No call creates a directory that belongs to none of the elements. -/
theorem directoryEntry_key_ne
    (free : ∀ id path, MakesBelow model options base id (.createDirectory path) → parts path ≠ key) :
    ∀ entry ∈ calls.filterMap Call.directoryEntry?, entry.key ≠ key := by
  intro entry member
  obtain ⟨call, called, creates⟩ := List.mem_filterMap.mp member
  cases call with
  | writeFile path text => cases creates
  | createDirectory path =>
      cases creates
      obtain ⟨id, makes⟩ := arranged.mem_calls_iff.mp called
      exact free id path makes

/-- No call writes a file that belongs to none of the elements. -/
theorem fileEntry_key_ne
    (free : ∀ id path text, MakesBelow model options base id (.writeFile path text) → parts path ≠ key) :
    ∀ entry ∈ calls.filterMap Call.fileEntry?, entry.key ≠ key := by
  intro entry member
  obtain ⟨call, called, writes⟩ := List.mem_filterMap.mp member
  cases call with
  | createDirectory path => cases writes
  | writeFile path text =>
      cases writes
      obtain ⟨id, makes⟩ := arranged.mem_calls_iff.mp called
      exact free id path text makes

end Arranges

/-- From an element that is not there nothing is generated. -/
theorem isSome_of_generate {σ : Type} {store : Store σ} {logged ended : Logged σ}
    (generates : generate (Target.ofStore store) model options base logged = (.ok (), ended)) :
    (model.element? base).isSome = true := by
  cases known : (model.element? base).isSome with
  | true => rfl
  | false =>
      have missing : (model.element? base).isNone = true := by simpa using known
      rw [generate, if_pos missing] at generates
      cases generates

/-- Generating again changes nothing. Let generating from an element of a tree into a memory, whatever is in it
    already, succeed and leave the memory `after`. Then

    * generating from the element into `after`, with any notices before, succeeds and leaves `after`;
    * at every path that is not the directory of a package below the element, there are the same entries for
      directories as before;
    * at every path that is not the file of a classifier below the element, there are the same entries for
      files as before, with their texts.

    Several classifiers may have one path. -/
theorem regeneration_is_idempotent (tree : model.IsTree) (options : Options) (base : ElementId)
    {before after : Memory} {notices log : List Notice}
    (generates : generate (Target.ofStore Memory.store) model options base ⟨before, notices⟩ =
      (.ok (), ⟨after, log⟩)) :
    (∀ notices, ∃ log, generate (Target.ofStore Memory.store) model options base ⟨after, notices⟩ =
      (.ok (), ⟨after, log⟩)) ∧
    (∀ key, (∀ id path, MakesBelow model options base id (.createDirectory path) → parts path ≠ key) →
      after.directories.entries.filter (·.key == key) = before.directories.entries.filter (·.key == key)) ∧
    ∀ key, (∀ id path text, MakesBelow model options base id (.writeFile path text) → parts path ≠ key) →
      after.files.entries.filter (·.key == key) = before.files.entries.filter (·.key == key) := by
  obtain ⟨makers, calls, arranged, performs⟩ := exists_arrangement tree options (isSome_of_generate generates)
  have performed : Memory.store.perform calls before = (.ok (), after) := by
    obtain ⟨notices', ran⟩ := performs Memory.store ⟨before, notices⟩
    rw [generates] at ran
    obtain ⟨accepted, left⟩ := Prod.mk.inj ran
    exact Prod.ext accepted.symm (congrArg Logged.state left).symm
  obtain ⟨same, -, -⟩ := Memory.eq_after_of_perform performed
  refine ⟨fun notices => ?_, fun key free => ?_, fun key free => ?_⟩
  · obtain ⟨log, ran⟩ := performs Memory.store ⟨after, notices⟩
    rw [Memory.perform_again performed] at ran
    exact ⟨log, ran⟩
  · rw [same]
    exact Output.PathMap.filter_storeAll (arranged.directoryEntry_key_ne free) _
  · rw [same]
    exact Output.PathMap.filter_storeAll (arranged.fileEntry_key_ne free) _

/-- A memory with an old file of the twins and with notes that are none of theirs. -/
def shelf : Memory where
  directories := Output.PathMap.empty.insert "old" ()
  files := (Output.PathMap.empty.insert "m/A.php" "<?php").insert "old/notes" "keep"

/-- Every file of the twins is the one file of both. -/
theorem path_of_twins {id : ElementId} {path text : String}
    (makes : MakesBelow twins {} Model.root id (.writeFile path text)) : path = "m/A.php" := by
  obtain ⟨names, stands, makes⟩ := makes
  have root : twins.element? Model.root = some twins.elements[0] := rfl
  have classifiers : ∀ child ∈ twins.owned Model.root, Php.fileName? twins {} child = some "A.php" ∧
      ∀ element ∈ twins.element? child, element.content.isPackage = false := by
    decide +kernel
  cases stands with
  | itself =>
      cases makes with
      | file found isClassifier =>
          cases root.symm.trans found
          cases isClassifier
  | inside found isPackage named listed within =>
      cases root.symm.trans found
      obtain ⟨called, plain⟩ := classifiers _ listed
      cases within with
      | inside found isPackage =>
          rw [plain _ found] at isPackage
          cases isPackage
      | itself =>
          cases makes with
          | file found isClassifier named called' =>
              cases called.symm.trans called'
              decide +kernel

/-- The class and the interface of one name are generated over the old file, twice with the same result, and the
    notes stay. -/
theorem regeneration_is_idempotent_twins : ∃ after log,
    generate (Target.ofStore Memory.store) twins {} Model.root ⟨shelf, []⟩ = (.ok (), ⟨after, log⟩) ∧
      (∃ log, generate (Target.ofStore Memory.store) twins {} Model.root ⟨after, []⟩ = (.ok (), ⟨after, log⟩)) ∧
      after.files.find? "old/notes" = some "keep" := by
  have tree : twins.IsTree := (Document.isRecorded_of_readDocument twins_read).isTree
  rcases generates : generate (Target.ofStore Memory.store) twins {} Model.root ⟨shelf, []⟩ with
    ⟨outcome, after, log⟩
  have accepted : (generate (Target.ofStore Memory.store) twins {} Model.root ⟨shelf, []⟩).1.toOption = some () := by
    decide +kernel
  rw [generates] at accepted
  cases Document.eq_ok_of_toOption accepted
  obtain ⟨again, -, files⟩ := regeneration_is_idempotent tree {} Model.root generates
  have notes := files (parts "old/notes") fun id path text makes => by
    rw [path_of_twins makes]
    decide +kernel
  refine ⟨after, log, rfl, again [], ?_⟩
  rw [Output.PathMap.find?, Output.PathMap.findKey?, ← List.head?_filter, notes]
  decide +kernel

end Blueprint
