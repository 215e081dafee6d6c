/-
Module: Blueprint.Proofs.Php.Fragment
Purpose: Parts of source text. A part is within a fragment when its lines stand side by side in it, all
  moved in by one number of levels, and the fragment needs imported whatever the part needs. What is
  within a fragment is written into every unit that the fragment is put into.
Main exports: Fragment.Within, Fragment.Within.trans, Fragment.within_concat, Fragment.within_block,
  isEmpty_render, SourceUnit.solidLines, SourceUnit.Writes, SourceUnit.writes_emit,
  SourceUnit.barePath_mem_imports_emit, SourceUnit.mem_imports_emit, SourceUnit.emit_append,
  SourceUnit.emit_deeper, SourceUnit.emit_block, SourceUnit.emit_withoutFinalBlank
-/
import Blueprint.Php.Unit

namespace Blueprint.Php

/-- The line a number of levels further in. -/
def SourceLine.raised (level : Nat) (line : SourceLine) : SourceLine :=
  { line with level := line.level + level }

theorem SourceLine.raised_raised (inner outer : Nat) (line : SourceLine) :
    (line.raised inner).raised outer = line.raised (inner + outer) := by
  simp [raised, Nat.add_assoc]

namespace Fragment

variable {part middle whole : Fragment} {text : String}

/-- The part occurs in the whole: its lines side by side at some level, and its imports. -/
structure Within (part whole : Fragment) : Prop where
  imports : part.imports ⊆ whole.imports
  lines : ∃ level, part.lines.map (SourceLine.raised level) <:+: whole.lines

theorem map_raised_zero (lines : List SourceLine) : lines.map (SourceLine.raised 0) = lines := by
  have same : SourceLine.raised 0 = id := rfl
  rw [same, List.map_id]

theorem Within.refl (part : Fragment) : Within part part := by
  constructor
  · exact List.Subset.refl _
  · exact ⟨0, (map_raised_zero _).symm ▸ List.infix_refl _⟩

theorem Within.trans (first : Within part middle) (second : Within middle whole) :
    Within part whole := by
  obtain ⟨inner, inside⟩ := first.lines
  obtain ⟨outer, outside⟩ := second.lines
  constructor
  · exact List.Subset.trans first.imports second.imports
  · refine ⟨inner + outer, ?_⟩
    have levels : part.lines.map (SourceLine.raised (inner + outer)) =
        (part.lines.map (SourceLine.raised inner)).map (SourceLine.raised outer) := by
      rw [List.map_map]
      exact List.map_congr_left fun line _ => (line.raised_raised inner outer).symm
    rw [levels]
    exact (inside.map _).trans outside

/-- Lines that occur at their own level. -/
theorem within_of_infix (imports : part.imports ⊆ whole.imports) (lines : part.lines <:+: whole.lines) :
    Within part whole := by
  constructor
  · exact imports
  · exact ⟨0, (map_raised_zero _).symm ▸ lines⟩

theorem within_append_left (first second : Fragment) : Within first (first ++ second) := by
  apply within_of_infix
  · exact List.subset_append_left _ _
  · exact (List.prefix_append _ _).isInfix

theorem within_append_right (first second : Fragment) : Within second (first ++ second) := by
  apply within_of_infix
  · exact List.subset_append_right _ _
  · exact (List.suffix_append _ _).isInfix

theorem within_concat {fragments : List Fragment} (member : part ∈ fragments) :
    Within part (concat fragments) := by
  induction fragments with
  | nil => cases member
  | cons first rest ih =>
      rcases List.mem_cons.mp member with rfl | later
      · exact within_append_left _ _
      · exact (ih later).trans (within_append_right _ _)

theorem within_deeper (part : Fragment) : Within part part.deeper := by
  constructor
  · exact List.Subset.refl _
  · exact ⟨1, List.infix_refl _⟩

theorem imports_withoutFinalBlank (whole : Fragment) : whole.withoutFinalBlank.imports = whole.imports := by
  unfold withoutFinalBlank
  split
  · split <;> rfl
  · rfl

/-- Taking back a final blank line loses no lines that are followed by a blank line themselves. -/
theorem infix_withoutFinalBlank {lines : List SourceLine} {blankLine : SourceLine}
    (followed : lines ++ [blankLine] <:+: whole.lines) : lines <:+: whole.withoutFinalBlank.lines := by
  have kept : whole.lines.dropLast <+: whole.withoutFinalBlank.lines := by
    unfold withoutFinalBlank
    split
    · split
      · exact List.prefix_refl _
      · exact List.dropLast_prefix _
    · exact List.dropLast_prefix _
  obtain ⟨before, after, split⟩ := followed
  have dropped : whole.lines.dropLast = before ++ lines ++ (blankLine :: after).dropLast := by
    rw [← split, List.append_assoc, List.append_assoc, List.singleton_append,
      List.dropLast_append_of_ne_nil (by simp), List.dropLast_append_of_ne_nil (by simp),
      List.append_assoc]
  refine List.IsInfix.trans ?_ kept.isInfix
  rw [dropped]
  exact ⟨before, _, rfl⟩

/-- Taking back a final blank line loses no part that is followed by a blank line itself. -/
theorem within_withoutFinalBlank (followed : Within (part ++ blank) whole) :
    Within part whole.withoutFinalBlank := by
  constructor
  · rw [imports_withoutFinalBlank]
    exact ((within_append_left part blank).trans followed).imports
  · obtain ⟨level, lines⟩ := followed.lines
    rw [lines_append, List.map_append] at lines
    exact ⟨level, infix_withoutFinalBlank lines⟩

/-- A fragment is its imports and its lines. -/
theorem ext {first second : Fragment} (imports : first.imports = second.imports)
    (lines : first.lines = second.lines) : first = second := by
  rcases first with ⟨_, _⟩
  rcases second with ⟨_, _⟩
  cases imports
  cases lines
  rfl

theorem append_assoc (first second third : Fragment) :
    first ++ second ++ third = first ++ (second ++ third) :=
  ext (List.append_assoc _ _ _) (List.append_assoc _ _ _)

theorem append_empty (fragment : Fragment) : fragment ++ empty = fragment :=
  ext (List.append_nil _) (List.append_nil _)

/-- A text has at least one line. -/
theorem lines_ofText_ne_nil (text : String) : (ofText text).lines ≠ [] := by
  obtain ⟨first, rest, parts⟩ := List.exists_cons_of_ne_nil (List.splitOn_ne_nil '\n' text.toList)
  rw [ofText, Text.pieces, Text.splitText, parts]
  exact List.cons_ne_nil _ _

theorem concat_cons (first : Fragment) (rest : List Fragment) : concat (first :: rest) = first ++ concat rest := rfl

theorem concat_append (first second : List Fragment) :
    concat (first ++ second) = concat first ++ concat second := by
  induction first with
  | nil => rfl
  | cons fragment rest ih => rw [List.cons_append, concat_cons, ih, concat_cons, append_assoc]

theorem lines_concat (fragments : List Fragment) : (concat fragments).lines = fragments.flatMap lines := by
  induction fragments with
  | nil => rfl
  | cons first rest ih =>
      rw [List.flatMap_cons, ← ih]
      rfl

theorem imports_concat (fragments : List Fragment) :
    (concat fragments).imports = fragments.flatMap imports := by
  induction fragments with
  | nil => rfl
  | cons first rest ih =>
      rw [List.flatMap_cons, ← ih]
      rfl

/-- A sequence needs nothing imported if none of its parts does. -/
theorem imports_concat_map_eq_nil {α : Type} {part : α → Fragment} (none : ∀ item, (part item).imports = [])
    (items : List α) : (concat (items.map part)).imports = [] := by
  rw [imports_concat, List.flatMap_map, List.flatMap_eq_nil_iff]
  exact fun item _ => none item

theorem imports_ofText (text : String) : (ofText text).imports = [] := rfl

theorem imports_blank : blank.imports = [] := rfl

theorem imports_deeper (fragment : Fragment) : fragment.deeper.imports = fragment.imports := rfl

/-! ### Blocks -/

theorem imports_block (header : String) (content : Fragment) : (block header content).imports = content.imports :=
  List.append_nil _

theorem header_within_block (header : String) (content : Fragment) :
    Within (ofText header) (block header content) := by
  unfold block
  exact (within_append_left _ _).trans ((within_append_left _ _).trans (within_append_left _ _))

theorem content_within_block (header : String) (content : Fragment) :
    Within content (block header content) := by
  unfold block
  exact (within_deeper _).trans ((within_append_right _ _).trans (within_append_left _ _))

end Fragment

/-! ### Units -/

/-- A line is written blank exactly if it has no text. -/
theorem isEmpty_render (unit : String) (depth : Nat) (line : SourceLine) :
    (line.render unit depth).isEmpty = line.text.isEmpty := by
  unfold SourceLine.render
  split
  · rename_i blank
    rw [blank]
    rfl
  · rename_i filled
    rw [Bool.eq_false_iff.mpr filled, Bool.eq_false_iff, Ne, String.isEmpty_iff, String.append_eq_empty_iff]
    exact fun both => filled (String.isEmpty_iff.mpr both.2)

namespace SourceUnit

variable {unit : SourceUnit} {path text : String}

/-- The lines of a unit that are not blank. -/
def solidLines (unit : SourceUnit) : List String :=
  unit.lines.toList.filter (!·.isEmpty)

/-- The unit holds the lines of the text, side by side at some level. -/
def Writes (unit : SourceUnit) (text : String) : Prop :=
  ∃ level, (Fragment.ofText text).lines.map (·.render unit.indentUnit level) <:+: unit.lines.toList

theorem foldl_push (lines : List SourceLine) (unit : SourceUnit) :
    lines.foldl push unit =
      { unit with lines := unit.lines ++ (lines.map (·.render unit.indentUnit unit.depth)).toArray } := by
  induction lines generalizing unit with
  | nil => simp
  | cons line rest ih =>
      rw [List.foldl_cons, ih]
      simp [push]

/-- Importing changes nothing but the list of imports, which only grows. -/
theorem addImport_eq (unit : SourceUnit) (path : String) :
    ∃ more, unit.addImport path = { unit with imports := unit.imports ++ more } := by
  unfold addImport
  dsimp only
  split
  · exact ⟨[], by rw [List.append_nil]⟩
  · exact ⟨_, rfl⟩

theorem foldl_addImport_eq (paths : List String) (unit : SourceUnit) :
    ∃ more, paths.foldl addImport unit = { unit with imports := unit.imports ++ more } := by
  induction paths generalizing unit with
  | nil => exact ⟨[], by rw [List.append_nil, List.foldl_nil]⟩
  | cons path rest ih =>
      obtain ⟨here, added⟩ := unit.addImport_eq path
      obtain ⟨later, all⟩ := ih (unit.addImport path)
      refine ⟨here ++ later, ?_⟩
      rw [List.foldl_cons, all, added, List.append_assoc]

/-- The path as it is imported: without the separators at its beginning. -/
def barePath (path : String) : String :=
  String.ofList (path.toList.dropWhile (· == '\\'))

theorem barePath_eq (bare : path.toList.dropWhile (· == '\\') = path.toList) : barePath path = path := by
  rw [barePath, bare, String.ofList_toList]

/-- A path is imported without the separators at its beginning, if anything is left of it. -/
theorem barePath_mem_addImport (filled : barePath path ≠ "") :
    barePath path ∈ (unit.addImport path).imports := by
  unfold addImport
  dsimp only
  split
  · rename_i known
    rcases Bool.or_eq_true_iff.mp known with isEmpty | contained
    · exact absurd (String.isEmpty_iff.mp isEmpty) filled
    · exact List.contains_iff_mem.mp contained
  · exact List.mem_append_right _ List.mem_cons_self

theorem barePath_mem_foldl_addImport {paths : List String} (member : path ∈ paths)
    (filled : barePath path ≠ "") : barePath path ∈ (paths.foldl addImport unit).imports := by
  induction paths generalizing unit with
  | nil => cases member
  | cons first rest ih =>
      rcases List.mem_cons.mp member with rfl | later
      · obtain ⟨more, all⟩ := foldl_addImport_eq rest (unit.addImport path)
        rw [List.foldl_cons, all]
        exact List.mem_append_left _ (barePath_mem_addImport filled)
      · exact ih later

/-- What is imported was imported before, or it is one of the paths without the separators at its
    beginning. -/
theorem exists_of_mem_foldl_addImport {paths : List String}
    (member : path ∈ (paths.foldl addImport unit).imports) :
    path ∈ unit.imports ∨ ∃ full ∈ paths, path = barePath full ∧ path ≠ "" := by
  induction paths generalizing unit with
  | nil => exact .inl member
  | cons first rest ih =>
      rcases ih member with before | ⟨full, later, bare⟩
      · unfold addImport at before
        dsimp only at before
        split at before
        · exact .inl before
        · rename_i new
          rcases List.mem_append.mp before with before | here
          · exact .inl before
          · refine .inr ⟨first, List.mem_cons_self, List.mem_singleton.mp here, ?_⟩
            rintro rfl
            simp [← List.mem_singleton.mp here] at new
      · exact .inr ⟨full, List.mem_cons_of_mem first later, bare⟩

/-- Putting a fragment into a unit adds its lines at the current depth, and imports. -/
theorem emit_eq (unit : SourceUnit) (fragment : Fragment) :
    unit.emit fragment =
      { unit with
        imports := (fragment.imports.foldl addImport unit).imports
        lines := unit.lines ++ (fragment.lines.map (·.render unit.indentUnit unit.depth)).toArray } := by
  obtain ⟨more, all⟩ := foldl_addImport_eq fragment.imports unit
  rw [emit, foldl_push, all]

/-- What a fragment needs imported is imported by the unit that it is put into. -/
theorem barePath_mem_imports_emit {fragment : Fragment} (member : path ∈ fragment.imports)
    (filled : barePath path ≠ "") : barePath path ∈ (unit.emit fragment).imports := by
  rw [emit_eq]
  exact barePath_mem_foldl_addImport member filled

/-- A path that is not empty and begins with no separator is imported as it stands. -/
theorem mem_imports_emit {fragment : Fragment} (member : path ∈ fragment.imports) (filled : path ≠ "")
    (bare : path.toList.dropWhile (· == '\\') = path.toList) :
    path ∈ (unit.emit fragment).imports := by
  have imported := @barePath_mem_imports_emit unit path fragment member
  rw [barePath_eq bare] at imported
  exact imported filled

/-- A text that is within a fragment is written into the unit that the fragment is put into. -/
theorem writes_emit {fragment : Fragment} (inside : (Fragment.ofText text).Within fragment) :
    (unit.emit fragment).Writes text := by
  obtain ⟨level, lines⟩ := inside.lines
  refine ⟨unit.depth + level, ?_⟩
  have rendered := lines.map (·.render unit.indentUnit unit.depth)
  rw [List.map_map] at rendered
  have levels : (fun line : SourceLine => line.render unit.indentUnit (unit.depth + level)) =
      (fun line : SourceLine => line.render unit.indentUnit unit.depth) ∘ SourceLine.raised level := by
    funext line
    have depths : unit.depth + level + line.level = unit.depth + (line.level + level) := by omega
    unfold SourceLine.render
    rw [depths]
    rfl
  rw [emit_eq, levels]
  refine rendered.trans ?_
  rw [Array.toList_append]
  exact (List.suffix_append _ _).isInfix

/-! ### Writing step by step -/

/-- Which imports are added depends on the imports that there are, and on nothing else of the unit. -/
theorem imports_foldl_addImport {unit other : SourceUnit} (same : unit.imports = other.imports)
    (paths : List String) :
    (paths.foldl addImport unit).imports = (paths.foldl addImport other).imports := by
  induction paths generalizing unit other with
  | nil => exact same
  | cons path rest ih =>
      rw [List.foldl_cons, List.foldl_cons]
      apply ih
      unfold addImport
      dsimp only
      rw [same]
      split <;> simp [same]

@[simp] theorem indentUnit_emit (unit : SourceUnit) (fragment : Fragment) :
    (unit.emit fragment).indentUnit = unit.indentUnit := by
  rw [emit_eq]

@[simp] theorem indentUnit_write (unit : SourceUnit) (text : String) :
    (unit.write text).indentUnit = unit.indentUnit :=
  unit.indentUnit_emit (.ofText text)

@[simp] theorem indentUnit_foldl_addImport (unit : SourceUnit) (paths : List String) :
    (paths.foldl addImport unit).indentUnit = unit.indentUnit :=
  unit.indentUnit_emit (.importing paths)

@[simp] theorem indentUnit_indent (unit : SourceUnit) : unit.indent.indentUnit = unit.indentUnit := rfl

@[simp] theorem indentUnit_blank (unit : SourceUnit) : unit.blank.indentUnit = unit.indentUnit := rfl

@[simp] theorem emit_empty (unit : SourceUnit) : unit.emit .empty = unit := rfl

@[simp] theorem emit_ofText (unit : SourceUnit) (text : String) :
    unit.emit (.ofText text) = unit.write text := rfl

@[simp] theorem emit_importing (unit : SourceUnit) (paths : List String) :
    unit.emit (.importing paths) = paths.foldl addImport unit := rfl

@[simp] theorem emit_blank (unit : SourceUnit) : unit.emit .blank = unit.blank := by
  simp [emit_eq, blank, Fragment.blank, SourceLine.render]

/-- One fragment is put into a unit after the other. Their imports do not wait for each other's lines. -/
@[simp] theorem emit_append (unit : SourceUnit) (first second : Fragment) :
    unit.emit (first ++ second) = (unit.emit first).emit second := by
  have imports : (second.imports.foldl addImport (first.imports.foldl addImport unit)).imports =
      (second.imports.foldl addImport (unit.emit first)).imports :=
    imports_foldl_addImport (by rw [emit_eq]) second.imports
  rw [emit_eq unit, Fragment.imports_append, List.foldl_append, imports, emit_eq (unit.emit first),
    emit_eq unit first]
  simp

@[simp] theorem emit_concat (unit : SourceUnit) (fragments : List Fragment) :
    unit.emit (.concat fragments) = fragments.foldl emit unit := by
  induction fragments generalizing unit with
  | nil => rfl
  | cons first rest ih =>
      rw [List.foldl_cons, ← ih]
      exact emit_append unit first (.concat rest)

/-- What is one level further in is written between a step inwards and a step back. -/
@[simp] theorem emit_deeper (unit : SourceUnit) (fragment : Fragment) :
    unit.emit fragment.deeper = (unit.indent.emit fragment).outdent := by
  have imports : (fragment.imports.foldl addImport unit).imports =
      (fragment.imports.foldl addImport unit.indent).imports := by
    apply imports_foldl_addImport
    rfl
  have lines : fragment.lines.map ((·.render unit.indentUnit unit.depth) ∘ SourceLine.deeper) =
      fragment.lines.map (·.render unit.indentUnit (unit.depth + 1)) := by
    apply List.map_congr_left
    intro line _
    have depths : unit.depth + (line.level + 1) = unit.depth + 1 + line.level := by omega
    simp only [Function.comp, SourceLine.render, SourceLine.deeper, depths]
  rw [emit_eq, emit_eq unit.indent, Fragment.deeper, List.map_map, lines, imports]
  rfl

@[simp] theorem emit_block (unit : SourceUnit) (header : String) (content : Fragment) :
    unit.emit (.block header content) =
      (((unit.write header).write "\x7b").indent.emit content).outdent.write "\x7d" := by
  rw [Fragment.block]
  simp only [emit_append, emit_deeper, emit_ofText]

/-- Nothing is written between the step inwards and the step back of an empty block. -/
theorem emit_block_empty (unit : SourceUnit) (header : String) :
    unit.emit (.block header .empty) = ((unit.write header).write "\x7b").write "\x7d" := by
  have back (opened : SourceUnit) : opened.indent.outdent = opened := rfl
  rw [emit_block, emit_empty, back]

/-- A final blank line is taken back from the unit if the line before the fragment is not blank itself, so
    that nothing else can be taken back. -/
theorem emit_withoutFinalBlank (filled : unit.lines.back? ≠ some "") (fragment : Fragment) :
    unit.emit fragment.withoutFinalBlank = (unit.emit fragment).popBlank := by
  rcases fragment with ⟨imports, lines⟩
  rcases List.eq_nil_or_concat lines with rfl | ⟨before, last, rfl⟩
  · have kept : Fragment.withoutFinalBlank ⟨imports, []⟩ = ⟨imports, []⟩ := rfl
    rw [kept, popBlank, if_neg]
    rw [emit_eq]
    simpa using filled
  · by_cases blank : last.text = ""
    · have dropped : Fragment.withoutFinalBlank ⟨imports, before.concat last⟩ = ⟨imports, before⟩ := by
        simp [Fragment.withoutFinalBlank, blank]
      rw [dropped, popBlank, if_pos]
      · simp [emit_eq]
      · simp [emit_eq, SourceLine.render, blank]
    · have kept : Fragment.withoutFinalBlank ⟨imports, before.concat last⟩ =
          ⟨imports, before.concat last⟩ := by
        simp [Fragment.withoutFinalBlank, blank]
      rw [kept, popBlank, if_neg]
      simp [emit_eq, SourceLine.render, blank]

/-- Behind an opening brace the last line is not blank, at whatever depth. -/
theorem back?_write_brace (unit : SourceUnit) : ((unit.write "\x7b").indent).lines.back? ≠ some "" := by
  have brace : (Fragment.ofText "\x7b").lines = [⟨0, "\x7b"⟩] := by cbv
  rw [← emit_ofText, emit_eq, brace]
  simp [indent, SourceLine.render]

end SourceUnit

end Blueprint.Php
