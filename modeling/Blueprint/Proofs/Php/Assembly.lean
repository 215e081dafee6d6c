/-
Module: Blueprint.Proofs.Php.Assembly
Purpose: Units as they are put together. A unit is written in steps: texts, steps inwards and back, blank lines that
  are added and taken back, and imports. Whatever is written and in whatever order, the lines of the body stay
  single lines without blanks at their ends, none that has a text is lost, and the imports are the paths in the
  order in which they occur first. The file has the lines of the header, those of the body and nothing else.
Main exports: SourceUnit.Step, SourceUnit.perform, SourceUnit.assembled, IsTidyLine, SourceUnit.HasTidyLines,
  SourceUnit.HasTidyLines.perform, SourceUnit.textLines, SourceUnit.solidLines_foldl_perform, headLines,
  SourceUnit.pieces_finish, SourceUnit.assembled_faithfully
-/
import Blueprint.Proofs.Php.Factory
import Blueprint.Proofs.Php.Imports

namespace Blueprint.Php

open Text

/-- The line holds no line feed and does not end in a blank. -/
structure IsTidyLine (line : String) : Prop where
  single : '\n' ∉ line.toList
  ends : line = "" ∨ ∃ last, line.toList.getLast? = some last ∧ isBlank last = false

theorem isTidyLine_empty : IsTidyLine "" :=
  ⟨List.not_mem_nil, .inl rfl⟩

/-- A piece of a text is tidy behind any indentation that is no line end. -/
theorem isTidyLine_render {unit piece : String} (single : '\n' ∉ unit.toList) (whole : '\n' ∉ piece.toList)
    (depth : Nat) : IsTidyLine (SourceLine.render unit depth ⟨0, trimEnd piece⟩) := by
  by_cases empty : trimEnd piece = ""
  · have blank : SourceLine.render unit depth ⟨0, trimEnd piece⟩ = "" := by simp [SourceLine.render, empty]
    rw [blank]
    exact isTidyLine_empty
  · rw [render_of_filled empty]
    constructor
    · rw [String.toList_append, List.mem_append, not_or]
      exact ⟨not_mem_repeated single _, fun inside => whole (mem_of_mem_trimEnd inside)⟩
    · right
      have filled : (trimEnd piece).toList ≠ [] := fun none => empty (String.toList_eq_nil_iff.mp none)
      obtain ⟨last, ends⟩ := Option.isSome_iff_exists.mp (List.getLast?_isSome.mpr filled)
      refine ⟨last, ?_, isBlank_of_mem_getLast?_trimEnd ends⟩
      rw [String.toList_append, List.getLast?_append, ends]
      rfl

namespace SourceUnit

variable {unit : SourceUnit} {line path : String}

/-! ### Steps -/

/-- One step of writing a unit. -/
inductive Step where
  | write (text : String)
  | indent
  | outdent
  | blank
  | popBlank
  | addImport (path : String)
deriving DecidableEq, Repr

/-- The unit after one more step. -/
def perform (unit : SourceUnit) : Step → SourceUnit
  | .write text => unit.write text
  | .indent => unit.indent
  | .outdent => unit.outdent
  | .blank => unit.blank
  | .popBlank => unit.popBlank
  | .addImport path => unit.addImport path

/-- The unit that the steps make of one that holds nothing yet. -/
def assembled (indentUnit namespaceName : String) (steps : List Step) : SourceUnit :=
  steps.foldl perform (start indentUnit namespaceName)

/-- Writing a text adds its lines at the current depth, and nothing else. -/
theorem write_eq_append (unit : SourceUnit) (text : String) :
    unit.write text =
      { unit with
        lines := unit.lines ++ ((pieces text).map fun piece =>
          SourceLine.render unit.indentUnit unit.depth ⟨0, trimEnd piece⟩).toArray } := by
  simp only [write, foldl_push, Fragment.ofText, List.map_map, Function.comp_def]

/-- Nothing is taken back but the last line, and only if it is blank. -/
theorem exists_popBlank_eq (unit : SourceUnit) :
    ∃ lines, unit.popBlank = { unit with lines } ∧ (unit.lines = lines ∨ unit.lines = lines.push "") := by
  unfold popBlank
  split
  · rename_i last
    obtain ⟨before, lines⟩ := Array.back?_eq_some_iff.mp last
    exact ⟨before, by rw [lines, Array.pop_push], .inr lines⟩
  · exact ⟨unit.lines, rfl, .inl rfl⟩

/-- No step changes the namespace or the indentation. -/
theorem perform_eq (unit : SourceUnit) (step : Step) :
    ∃ imports lines depth, unit.perform step = { unit with imports, lines, depth } := by
  cases step with
  | write text => exact ⟨_, _, _, unit.write_eq_append text⟩
  | indent => exact ⟨_, _, _, rfl⟩
  | outdent => exact ⟨_, _, _, rfl⟩
  | blank => exact ⟨_, _, _, rfl⟩
  | popBlank =>
      obtain ⟨lines, popped, -⟩ := unit.exists_popBlank_eq
      exact ⟨_, _, _, popped⟩
  | addImport path =>
      obtain ⟨more, added⟩ := unit.addImport_eq path
      exact ⟨_, _, _, added⟩

@[simp] theorem indentUnit_perform (unit : SourceUnit) (step : Step) :
    (unit.perform step).indentUnit = unit.indentUnit := by
  obtain ⟨imports, lines, depth, performed⟩ := unit.perform_eq step
  rw [performed]

@[simp] theorem namespaceName_perform (unit : SourceUnit) (step : Step) :
    (unit.perform step).namespaceName = unit.namespaceName := by
  obtain ⟨imports, lines, depth, performed⟩ := unit.perform_eq step
  rw [performed]

theorem namespaceName_foldl_perform (unit : SourceUnit) (steps : List Step) :
    (steps.foldl perform unit).namespaceName = unit.namespaceName := by
  induction steps generalizing unit with
  | nil => rfl
  | cons step rest ih => rw [List.foldl_cons, ih, namespaceName_perform]

/-! ### Lines -/

/-- Every line of the body is tidy, and the indentation is no line end. -/
structure HasTidyLines (unit : SourceUnit) : Prop where
  single : '\n' ∉ unit.indentUnit.toList
  lines : ∀ line ∈ unit.lines.toList, IsTidyLine line

theorem HasTidyLines.perform (tidy : unit.HasTidyLines) (step : Step) : (unit.perform step).HasTidyLines := by
  constructor
  · rw [indentUnit_perform]
    exact tidy.single
  · cases step with
    | write text =>
        rw [SourceUnit.perform, write_eq_append, Array.toList_append]
        intro line member
        rcases List.mem_append.mp member with before | here
        · exact tidy.lines line before
        · obtain ⟨piece, among, rfl⟩ := List.mem_map.mp here
          obtain ⟨part, cut, rfl⟩ := List.mem_map.mp among
          exact isTidyLine_render tidy.single (by simpa using not_mem_of_mem_splitOn cut) unit.depth
    | indent => exact tidy.lines
    | outdent => exact tidy.lines
    | blank =>
        intro line member
        rw [SourceUnit.perform, SourceUnit.blank, Array.toList_push, List.mem_append, List.mem_singleton] at member
        rcases member with before | rfl
        · exact tidy.lines line before
        · exact isTidyLine_empty
    | popBlank =>
        obtain ⟨lines, popped, kept⟩ := unit.exists_popBlank_eq
        rw [SourceUnit.perform, popped]
        intro line member
        apply tidy.lines line
        rcases kept with same | pushed
        · rwa [same]
        · rw [pushed, Array.toList_push]
          exact List.mem_append_left _ member
    | addImport path =>
        obtain ⟨more, added⟩ := unit.addImport_eq path
        rw [SourceUnit.perform, added]
        exact tidy.lines

theorem HasTidyLines.run (tidy : unit.HasTidyLines) (steps : List Step) :
    (steps.foldl SourceUnit.perform unit).HasTidyLines := by
  induction steps generalizing unit with
  | nil => exact tidy
  | cons step rest ih => exact ih (tidy.perform step)

/-- The lines of a text at a depth, without the blank ones. -/
def solidPieces (indentUnit : String) (depth : Nat) (text : String) : List String :=
  (((pieces text).map trimEnd).filter (!·.isEmpty)).map (repeated depth indentUnit ++ ·)

/-- The lines that steps write from a depth on, without the blank ones. -/
def textLines (indentUnit : String) : Nat → List Step → List String
  | _, [] => []
  | depth, .write text :: steps => solidPieces indentUnit depth text ++ textLines indentUnit depth steps
  | depth, .indent :: steps => textLines indentUnit (depth + 1) steps
  | depth, .outdent :: steps => textLines indentUnit (depth - 1) steps
  | depth, .blank :: steps | depth, .popBlank :: steps | depth, .addImport _ :: steps =>
    textLines indentUnit depth steps

theorem solidLines_write (unit : SourceUnit) (text : String) :
    (unit.write text).solidLines = unit.solidLines ++ solidPieces unit.indentUnit unit.depth text := by
  have rendered : ((pieces text).map fun piece =>
      SourceLine.render unit.indentUnit unit.depth ⟨0, trimEnd piece⟩).filter (!·.isEmpty) =
        solidPieces unit.indentUnit unit.depth text := by
    rw [solidPieces, List.filter_map, List.filter_map, List.map_map]
    simp only [Function.comp_def, isEmpty_render]
    apply List.map_congr_left
    intro piece member
    exact render_of_filled (by simpa using (List.mem_filter.mp member).2) unit.indentUnit unit.depth
  rw [solidLines, write_eq_append, Array.toList_append, List.filter_append, rendered]
  rfl

/-- Only blank lines are taken back. -/
theorem solidLines_popBlank (unit : SourceUnit) : unit.popBlank.solidLines = unit.solidLines := by
  obtain ⟨lines, popped, kept⟩ := unit.exists_popBlank_eq
  rw [popped, solidLines, solidLines]
  rcases kept with same | pushed
  · rw [same]
  · simp [pushed]

/-- No line with a text is lost, and no other ones come in. -/
theorem solidLines_foldl_perform (unit : SourceUnit) (steps : List Step) :
    (steps.foldl perform unit).solidLines =
      unit.solidLines ++ textLines unit.indentUnit unit.depth steps := by
  induction steps generalizing unit with
  | nil => exact (List.append_nil _).symm
  | cons step rest ih =>
      rw [List.foldl_cons, ih, indentUnit_perform]
      cases step with
      | write text =>
          have depth : (unit.write text).depth = unit.depth := by rw [write_eq_append]
          rw [perform, solidLines_write, depth, textLines, List.append_assoc]
      | indent => rfl
      | outdent => rfl
      | blank =>
          have lines : unit.blank.solidLines = unit.solidLines := by simp [solidLines, SourceUnit.blank]
          rw [perform, lines]
          rfl
      | popBlank =>
          have depth : unit.popBlank.depth = unit.depth := by
            obtain ⟨lines, popped, -⟩ := unit.exists_popBlank_eq
            rw [popped]
          rw [perform, solidLines_popBlank, depth, textLines]
      | addImport path =>
          obtain ⟨more, added⟩ := unit.addImport_eq path
          rw [perform, added, textLines]
          rfl

/-! ### Imports -/

/-- The path that a step imports, if it imports one. -/
def Step.path? : Step → Option String
  | .addImport path => some path
  | _ => none

/-- The other steps make no difference to the imports. -/
theorem imports_foldl_perform (unit : SourceUnit) (steps : List Step) :
    (steps.foldl perform unit).imports = ((steps.filterMap Step.path?).foldl addImport unit).imports := by
  induction steps generalizing unit with
  | nil => rfl
  | cons step rest ih =>
      rw [List.foldl_cons, ih]
      have other (same : (unit.perform step).imports = unit.imports) (none : step.path? = none) :
          ((rest.filterMap Step.path?).foldl addImport (unit.perform step)).imports =
            (((step :: rest).filterMap Step.path?).foldl addImport unit).imports := by
        rw [List.filterMap_cons_none none]
        exact imports_foldl_addImport same _
      cases step with
      | write text => exact other (by rw [perform, write_eq_append]) rfl
      | indent => exact other rfl rfl
      | outdent => exact other rfl rfl
      | blank => exact other rfl rfl
      | popBlank =>
          obtain ⟨lines, popped, -⟩ := unit.exists_popBlank_eq
          exact other (by rw [perform, popped]) rfl
      | addImport path => rfl

/-- What is imported is not empty and does not begin with a separator. -/
theorem plain_of_mem_barePaths {paths : List String} (member : path ∈ barePaths paths) :
    path ≠ "" ∧ path.toList.head? ≠ some '\\' := by
  obtain ⟨among, filled⟩ := List.mem_filter.mp member
  refine ⟨by simpa using filled, ?_⟩
  obtain ⟨full, -, rfl⟩ := List.mem_map.mp among
  intro begins
  rw [barePath, String.toList_ofList] at begins
  have stopped := List.head?_dropWhile_not (· == '\\') full.toList
  rw [begins] at stopped
  exact absurd stopped (by decide)

end SourceUnit

/-! ### Files -/

/-- The lines of a file before the body: the opening tag, the namespace if there is one, and the imports if there
    are any, each part with a blank line behind it. -/
def headLines (namespaceName : String) (imports : List String) : List String :=
  ["<?php", ""] ++
    (if namespaceName = "" then [] else ["namespace " ++ namespaceName ++ ";", ""]) ++
    if imports = [] then [] else imports.map (fun path => "use " ++ path ++ ";") ++ [""]

/-- Lines that are each ended by a line feed are pieces of their own. -/
theorem pieces_ended {ls : List String} (single : ∀ line ∈ ls, '\n' ∉ line.toList) (rest : String) :
    pieces (String.join (ls.map (· ++ "\n")) ++ rest) = ls ++ pieces rest := by
  induction ls with
  | nil => simp
  | cons line ls ih =>
      obtain ⟨here, later⟩ := List.forall_mem_cons.mp single
      rw [List.map_cons, String.join_cons, String.append_assoc, pieces_append_lineFeed, pieces_of_not_mem here,
        ih later]
      rfl

theorem single_of_mem_headLines {namespaceName line : String} {imports : List String}
    (inNamespace : '\n' ∉ namespaceName.toList) (imported : ∀ path ∈ imports, '\n' ∉ path.toList)
    (member : line ∈ headLines namespaceName imports) : '\n' ∉ line.toList := by
  unfold headLines at member
  rw [List.mem_append, List.mem_append] at member
  rcases member with (opening | namespaceLine) | importLine
  · rcases List.mem_pair.mp opening with rfl | rfl <;> decide
  · split at namespaceLine
    · cases namespaceLine
    · rcases List.mem_pair.mp namespaceLine with rfl | rfl
      · simpa using inNamespace
      · decide
  · split at importLine
    · cases importLine
    · rcases List.mem_append.mp importLine with use | behind
      · obtain ⟨path, among, rfl⟩ := List.mem_map.mp use
        simpa using imported path among
      · rw [List.mem_singleton.mp behind]
        decide

namespace SourceUnit

variable {unit : SourceUnit}

/-- The text before the body is the lines of the header, each ended by a line feed. -/
theorem opening_eq (unit : SourceUnit) :
    "<?php\n\n" ++ unit.header =
      String.join ((headLines unit.namespaceName unit.imports).map (· ++ "\n")) := by
  have inNamespace : (if unit.namespaceName.isEmpty then "" else "namespace " ++ unit.namespaceName ++ ";\n\n") =
      String.join ((if unit.namespaceName = "" then []
        else ["namespace " ++ unit.namespaceName ++ ";", ""]).map (· ++ "\n")) := by
    by_cases top : unit.namespaceName = ""
    · simp [top]
    · simp [top, String.append_assoc]
  have imported : (if unit.imports.isEmpty then ""
        else String.join (unit.imports.map fun path => "use " ++ path ++ ";\n") ++ "\n") =
      String.join ((if unit.imports = [] then []
        else unit.imports.map (fun path => "use " ++ path ++ ";") ++ [""]).map (· ++ "\n")) := by
    by_cases none : unit.imports = []
    · simp [none]
    · simp [none, Function.comp_def, String.append_assoc, String.join_append]
  have tag : String.join (["<?php", ""].map (· ++ "\n")) = "<?php\n\n" := by decide +kernel
  rw [headLines, List.map_append, List.map_append, String.join_append, String.join_append, tag, ← inNamespace,
    ← imported, String.append_assoc, header]

/-- The body is what is written up to the last line that is not blank. -/
theorem exists_trailing (unit : SourceUnit) :
    ∃ trailing, unit.lines.toList = unit.bodyLines ++ List.replicate trailing "" := by
  have blank : ∀ line ∈ unit.lines.toList.rtakeWhile String.isEmpty, line = "" := by
    intro line member
    exact String.isEmpty_iff.mp (List.mem_rtakeWhile_imp member)
  refine ⟨(unit.lines.toList.rtakeWhile String.isEmpty).length, ?_⟩
  rw [← List.eq_replicate_of_mem blank]
  exact List.rdropWhile_append_rtakeWhile.symm

/-- The last line of the body is not blank. -/
theorem ne_empty_of_mem_getLast?_bodyLines {last : String} (ends : last ∈ unit.bodyLines.getLast?) : last ≠ "" := by
  have filled : last.isEmpty = false := not_of_mem_getLast?_rdropWhile ends
  rintro rfl
  cases filled

/-- The pieces of a file: the lines of the header and those of the body, and nothing behind the last line feed. -/
theorem pieces_finish (inNamespace : '\n' ∉ unit.namespaceName.toList)
    (imported : ∀ path ∈ unit.imports, '\n' ∉ path.toList) (tidy : unit.HasTidyLines)
    (filled : unit.bodyLines ≠ []) :
    pieces unit.finish = headLines unit.namespaceName unit.imports ++ unit.bodyLines ++ [""] := by
  have opening : ∀ line ∈ headLines unit.namespaceName unit.imports, '\n' ∉ line.toList :=
    fun line => single_of_mem_headLines inNamespace imported
  have body : ∀ line ∈ unit.bodyLines, '\n' ∉ line.toList := by
    obtain ⟨trailing, lines⟩ := unit.exists_trailing
    intro line member
    exact (tidy.lines line (lines ▸ List.mem_append_left _ member)).single
  have bodyPieces : pieces (joinLines unit.bodyLines) = unit.bodyLines := by
    rw [pieces_joinLines filled, List.flatMap_congr fun line member => pieces_of_not_mem (body line member)]
    exact List.flatMap_singleton' _
  have ended : unit.finish = String.join ((headLines unit.namespaceName unit.imports).map (· ++ "\n")) ++
      (joinLines unit.bodyLines ++ "\n" ++ "") := by
    rw [← opening_eq, finish, String.append_empty, String.append_assoc]
  rw [ended, pieces_ended opening, pieces_append_lineFeed, bodyPieces, pieces_of_not_mem (by decide),
    List.append_assoc]

/-- Faithful assembly. Let the indentation be no line end, and let a unit be assembled in steps of any kind and
    order. Every line of its body holds no line feed and is empty or ends in a character that is not blank; the
    lines with a text are the ones that were written, at the depths at which they were written. The imports are the
    paths that were given, without the separators at their beginnings, in the order in which they occur first: they
    are distinct, and none is empty or begins with a separator. If besides neither the namespace nor an import holds
    a line feed and some line has a text, then the pieces of the file are the lines of the header, the lines of
    the body up to the last one that is not blank, and an empty one. -/
theorem assembled_faithfully {indentUnit namespaceName : String} {steps : List Step}
    (single : '\n' ∉ indentUnit.toList) (made : assembled indentUnit namespaceName steps = unit) :
    (∀ line ∈ unit.lines.toList, IsTidyLine line) ∧
    unit.solidLines = textLines indentUnit 0 steps ∧
    unit.imports = (barePaths (steps.filterMap Step.path?)).eraseDups ∧
    unit.imports.Nodup ∧
    (∀ path ∈ unit.imports, path ≠ "" ∧ path.toList.head? ≠ some '\\') ∧
    ('\n' ∉ namespaceName.toList → (∀ path ∈ unit.imports, '\n' ∉ path.toList) →
      (∃ line ∈ unit.lines.toList, line ≠ "") →
      ∃ body last trailing, unit.lines.toList = body ++ List.replicate trailing "" ∧
        body.getLast? = some last ∧ last ≠ "" ∧
        pieces unit.finish = headLines namespaceName unit.imports ++ body ++ [""]) := by
  have tidy : unit.HasTidyLines :=
    made ▸ HasTidyLines.run ⟨single, fun _ none => absurd none List.not_mem_nil⟩ steps
  have solid : unit.solidLines = textLines indentUnit 0 steps :=
    made ▸ solidLines_foldl_perform (start indentUnit namespaceName) steps
  have imports : unit.imports = (barePaths (steps.filterMap Step.path?)).eraseDups := by
    rw [← made, assembled, imports_foldl_perform, imports_foldl_addImport_start]
  have called : unit.namespaceName = namespaceName :=
    made ▸ namespaceName_foldl_perform (start indentUnit namespaceName) steps
  refine ⟨tidy.lines, solid, imports, imports ▸ nodup_eraseDups _, ?_, ?_⟩
  · intro path member
    rw [imports, List.mem_eraseDups] at member
    exact plain_of_mem_barePaths member
  · rintro inNamespace imported ⟨line, written, text⟩
    obtain ⟨trailing, lines⟩ := unit.exists_trailing
    have filled : unit.bodyLines ≠ [] := by
      intro none
      rw [lines, none, List.nil_append] at written
      exact text (List.eq_of_mem_replicate written)
    obtain ⟨last, ends⟩ := Option.isSome_iff_exists.mp (List.getLast?_isSome.mpr filled)
    rw [← called] at inNamespace ⊢
    exact ⟨_, last, trailing, lines, ends, ne_empty_of_mem_getLast?_bodyLines ends,
      pieces_finish inNamespace imported tidy filled⟩

/-- A class in two texts that end in blanks and a carriage return, with a path that is imported twice and one of
    which nothing is left. -/
def mailSteps : List Step :=
  [.addImport "\\App\\Mailer", .popBlank, .write "class Mail\n\x7b", .indent, .write "public $to; \r\n\npublic $text;",
    .blank, .popBlank, .addImport "App\\Mailer", .outdent, .outdent, .write "\x7d\t", .addImport "\\", .blank]

/-- The class is written with one import, and without the blank line at its end. -/
theorem assembled_faithfully_mail :
    '\n' ∉ "  ".toList ∧ '\n' ∉ "App".toList ∧ (assembled "  " "App" mailSteps).imports = ["App\\Mailer"] ∧
      (assembled "  " "App" mailSteps).lines.toList =
        ["class Mail", "\x7b", "  public $to;", "", "  public $text;", "\x7d", ""] ∧
      ∃ body last trailing,
        ["class Mail", "\x7b", "  public $to;", "", "  public $text;", "\x7d", ""] =
          body ++ List.replicate trailing "" ∧
        body.getLast? = some last ∧ last ≠ "" ∧
        pieces (assembled "  " "App" mailSteps).finish =
          ["<?php", "", "namespace App;", "", "use App\\Mailer;", ""] ++ body ++ [""] := by
  have single : '\n' ∉ "  ".toList := by decide
  have inNamespace : '\n' ∉ "App".toList := by decide
  have imports : (assembled "  " "App" mailSteps).imports = ["App\\Mailer"] := by decide +kernel
  have lines : (assembled "  " "App" mailSteps).lines.toList =
      ["class Mail", "\x7b", "  public $to;", "", "  public $text;", "\x7d", ""] := by decide +kernel
  have made : assembled "  " "App" mailSteps = assembled "  " "App" mailSteps := rfl
  obtain ⟨-, -, -, -, -, file⟩ := assembled_faithfully single made
  have head : headLines "App" ["App\\Mailer"] = ["<?php", "", "namespace App;", "", "use App\\Mailer;", ""] := by
    decide +kernel
  rw [imports, lines, head] at file
  exact ⟨single, inNamespace, imports, lines, file inNamespace (by decide) ⟨"class Mail", by decide, by decide⟩⟩

end SourceUnit

end Blueprint.Php
