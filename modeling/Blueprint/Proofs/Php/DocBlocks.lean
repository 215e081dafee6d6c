/-
Module: Blueprint.Proofs.Php.DocBlocks
Purpose: What a doc block is to a reader of the source. A comment goes from `/*` up to the first `*/`. Between the
  lines that open and close a doc block every line begins with a star, and adds nothing that could end the comment;
  but the text is written as it stands. So a doc block is one comment if and only if its text holds no `*/`; else it
  ends too early, and what the text says behind that is source.
Main exports: EndsComment, OneComment, endsComment_docLines, oneComment_docBlock, doc_block_is_one_comment_iff
-/
import Blueprint.Proofs.Php.Comments
import Blueprint.Proofs.Php.Factory

namespace Blueprint.Php

/-! ### Passages between separators -/

section Passages

variable {α : Type} {passage front back : List α} {separator : α}

/-- A passage without separators stands on one side of a separator. -/
theorem infix_append_separator (apart : separator ∉ passage) :
    passage <:+: front ++ separator :: back ↔ passage <:+: front ∨ passage <:+: back := by
  rw [List.infix_append_iff, List.infix_cons_iff]
  constructor
  · rintro (inside | (begins | inside) | ⟨first, second, rfl, ends, begins⟩)
    · exact .inl inside
    · rcases List.prefix_cons_iff.mp begins with rfl | ⟨rest, rfl, -⟩
      · exact .inl (List.nil_infix)
      · exact absurd List.mem_cons_self apart
    · exact .inr inside
    · rcases List.prefix_cons_iff.mp begins with rfl | ⟨rest, rfl, -⟩
      · exact .inl (by simpa using ends.isInfix)
      · exact absurd (List.mem_append_right first List.mem_cons_self) apart
  · rintro (inside | inside)
    · exact .inl inside
    · exact .inr (.inl (.inr inside))

/-- What has no element of a passage in it adds nothing in front of it. -/
theorem infix_append_of_forall_not_mem (filled : passage ≠ []) (apart : ∀ x ∈ front, x ∉ passage) :
    passage <:+: front ++ back ↔ passage <:+: back := by
  induction front with
  | nil => rfl
  | cons x front ih =>
      obtain ⟨here, apart⟩ := List.forall_mem_cons.mp apart
      have whole : passage <:+: [] ++ x :: (front ++ back) ↔ passage <:+: [] ∨ passage <:+: front ++ back :=
        infix_append_separator here
      rw [List.nil_append, List.infix_nil, or_iff_right filled] at whole
      rw [List.cons_append, whole, ih apart]

/-- What has no element of a passage in it adds nothing behind it. -/
theorem append_infix_of_forall_not_mem (filled : passage ≠ []) (apart : ∀ x ∈ back, x ∉ passage) :
    passage <:+: front ++ back ↔ passage <:+: front := by
  cases back with
  | nil => rw [List.append_nil]
  | cons x back =>
      obtain ⟨here, apart⟩ := List.forall_mem_cons.mp apart
      have none : passage <:+: back ++ [] ↔ passage <:+: [] := infix_append_of_forall_not_mem filled apart
      rw [List.append_nil, List.infix_nil] at none
      rw [infix_append_separator here, none, or_iff_left filled]

/-- A passage without separators stands in one of the parts between them. -/
theorem infix_intercalate (filled : passage ≠ []) (apart : separator ∉ passage) (parts : List (List α)) :
    passage <:+: [separator].intercalate parts ↔ ∃ part ∈ parts, passage <:+: part := by
  induction parts with
  | nil => simpa using filled
  | cons first rest ih =>
      cases rest with
      | nil => simp
      | cons second rest =>
          rw [List.intercalate_cons_cons, List.append_assoc, List.singleton_append, infix_append_separator apart, ih,
            List.exists_mem_cons_iff (a := first)]

end Passages

/-! ### The end of a comment -/

/-- A comment that the text is part of ends in it. -/
def EndsComment (text : String) : Prop :=
  "*/".toList <:+: text.toList

instance : DecidablePred EndsComment :=
  fun text => inferInstanceAs (Decidable ("*/".toList <:+: text.toList))

/-- The text is a comment: it begins with `/*`, and the first `*/` behind that ends it. -/
def OneComment (text : String) : Prop :=
  ∃ inside, text = "/*" ++ inside ++ "*/" ∧ ¬EndsComment (inside ++ "*")

theorem oneComment_iff (inside : String) : OneComment ("/*" ++ inside ++ "*/") ↔ ¬EndsComment (inside ++ "*") := by
  constructor
  · rintro ⟨other, same, runs⟩
    rwa [(String.append_right_inj "/*").mp ((String.append_left_inj "*/").mp same)]
  · exact fun runs => ⟨inside, rfl, runs⟩

theorem not_mem_of_isBlank {c : Char} (blank : Text.isBlank c = true) : c ∉ "*/".toList := by
  intro member
  have cases : c = '*' ∨ c = '/' := by simpa using member
  rcases cases with rfl | rfl <;> cases blank

theorem endsComment_append_blank {front : String} (blank : ∀ c ∈ front.toList, Text.isBlank c = true)
    (back : String) : EndsComment (front ++ back) ↔ EndsComment back := by
  unfold EndsComment
  rw [String.toList_append,
    infix_append_of_forall_not_mem (by decide) fun c member => not_mem_of_isBlank (blank c member)]

theorem endsComment_trim (text : String) : EndsComment (Text.trim text) ↔ EndsComment text := by
  obtain ⟨front, back, around, before, behind⟩ := Text.exists_around_stripBlank text.toList
  unfold EndsComment
  rw [Text.toList_trim]
  conv_rhs => rw [around]
  rw [append_infix_of_forall_not_mem (by decide) fun c member => not_mem_of_isBlank (behind c member),
    infix_append_of_forall_not_mem (by decide) fun c member => not_mem_of_isBlank (before c member)]

theorem endsComment_joinLines (ls : List String) :
    EndsComment (Text.joinLines ls) ↔ ∃ line ∈ ls, EndsComment line := by
  unfold EndsComment
  have feed : "\n".toList = ['\n'] := rfl
  rw [Text.joinLines, String.toList_intercalate, feed, infix_intercalate (by decide) (by decide)]
  simp only [List.mem_map, exists_exists_and_eq_and]

/-! ### Lines -/

/-- The lines hold what the pieces hold, but for carriage returns. -/
theorem exists_infix_linesOfPieces {passage : List Char} (filled : passage ≠ []) (apart : '\r' ∉ passage)
    (ps : List (List Char)) :
    (∃ line ∈ Text.linesOfPieces ps, passage <:+: line) ↔ ∃ piece ∈ ps, passage <:+: piece := by
  have returned : ∀ cs, passage <:+: Text.dropReturn cs ↔ passage <:+: cs := by
    intro cs
    unfold Text.dropReturn
    split
    · rename_i last
      obtain ⟨front, rfl⟩ := List.getLast?_eq_some_iff.mp last
      rw [List.dropLast_concat, append_infix_of_forall_not_mem filled (by simpa using apart)]
    · rfl
  fun_induction Text.linesOfPieces ps with
  | case1 => rfl
  | case2 last empty =>
      rw [List.isEmpty_iff.mp empty]
      simpa using filled
  | case3 => rfl
  | case4 piece rest _ ih => simp only [List.exists_mem_cons_iff, returned, ih]

/-- A comment that ends in a text ends in one of its lines. -/
theorem endsComment_lines (text : String) : (∃ line ∈ Text.lines text, EndsComment line) ↔ EndsComment text := by
  unfold EndsComment Text.lines
  simp only [List.mem_map, exists_exists_and_eq_and, String.toList_ofList]
  have feed : '\n' ∉ "*/".toList := by decide
  rw [Text.charLines, exists_infix_linesOfPieces (by decide) (by decide), ← infix_intercalate (by decide) feed,
    List.intercalate_splitOn]

/-- The star and the blanks around a line add nothing that ends the comment. -/
theorem endsComment_docLine (line : String) : EndsComment (docLine line) ↔ EndsComment line := by
  rw [← endsComment_trim line]
  unfold docLine
  dsimp only
  split
  · rename_i empty
    rw [String.isEmpty_iff.mp empty]
    decide
  · have starred : (" * " ++ Text.trim line).toList = " *".toList ++ ' ' :: (Text.trim line).toList := by
      rw [String.toList_append]
      rfl
    have star : ¬"*/".toList <:+: " *".toList := by decide
    unfold EndsComment
    rw [starred, infix_append_separator (by decide), or_iff_right star]

/-- The lines that tell a text end the comment if and only if the text does. -/
theorem endsComment_docLines (text : String) :
    (∃ line ∈ (Text.lines (Text.trim text)).map docLine, EndsComment line) ↔ EndsComment text := by
  rw [← endsComment_trim text, ← endsComment_lines]
  simp only [List.mem_map, exists_exists_and_eq_and, endsComment_docLine]

/-! ### The comment as a whole -/

theorem joinLines_concat_append (ls : List String) (last back : String) :
    Text.joinLines (ls ++ [last ++ back]) = Text.joinLines (ls ++ [last]) ++ back := by
  unfold Text.joinLines
  rcases ls with _ | ⟨first, rest⟩
  · simp
  · rw [String.intercalate_append_of_ne_nil (by simp) (by simp),
      String.intercalate_append_of_ne_nil (by simp) (by simp), String.intercalate_singleton, String.intercalate_singleton]
    simp only [String.append_assoc]

/-- Lines between the two that open and close a doc block, at a margin of blanks, are one comment if and only if none
    of them ends it. -/
theorem oneComment_lines {margin : String} (blank : ∀ c ∈ margin.toList, Text.isBlank c = true)
    (inner : List String) : OneComment (Text.joinLines ("/**" :: (inner ++ [" */"]).map (margin ++ ·))) ↔
      ¬∃ line ∈ inner, EndsComment line := by
  -- the text between the first two and the last two characters, with the star that is behind it
  have framed : Text.joinLines ("/**" :: (inner ++ [" */"]).map (margin ++ ·)) =
      "/*" ++ Text.joinLines ("*" :: inner.map (margin ++ ·) ++ [margin ++ " "]) ++ "*/" := by
    have opening : "/**" = "/*" ++ "*" := rfl
    have closing : margin ++ " */" = margin ++ " " ++ "*/" := by
      rw [String.append_assoc]
      rfl
    rw [List.map_append, List.map_singleton, closing, ← List.cons_append, joinLines_concat_append, opening,
      List.cons_append, List.cons_append, Text.joinLines, String.intercalate_cons_append]
    rfl
  have star : ¬EndsComment "*" := by decide
  have last : ¬EndsComment (margin ++ " " ++ "*") := by
    rw [String.append_assoc, endsComment_append_blank blank]
    decide
  rw [framed, oneComment_iff, ← joinLines_concat_append, endsComment_joinLines, not_iff_not]
  constructor
  · rintro ⟨line, member, ends⟩
    simp only [List.cons_append, List.mem_cons, List.mem_append, List.mem_map, List.not_mem_nil, or_false] at member
    rcases member with rfl | ⟨line, inside, rfl⟩ | rfl
    · exact absurd ends star
    · exact ⟨line, inside, (endsComment_append_blank blank line).mp ends⟩
    · exact absurd ends last
  · rintro ⟨line, inside, ends⟩
    refine ⟨margin ++ line, ?_, (endsComment_append_blank blank line).mpr ends⟩
    simp only [List.cons_append, List.mem_cons, List.mem_append, List.mem_map]
    exact .inr (.inl ⟨line, inside, rfl⟩)

theorem isBlank_of_mem_margin {c : Char} {style : IndentStyle} {depth : Nat}
    (member : c ∈ (repeated depth style.unit).toList) : Text.isBlank c = true := by
  by_contra solid
  refine not_mem_repeated (fun inside => solid ?_) depth member
  cases style with
  | tab =>
      rw [List.mem_singleton.mp inside]
      rfl
  | spaces count =>
      rw [IndentStyle.unit, String.toList_ofList] at inside
      rw [List.eq_of_mem_replicate inside]
      rfl

/-- The lines of a doc block, as a unit shows them. -/
theorem lines_emit_docBlock (rendering : Rendering) (text : String) (unit : SourceUnit) :
    (unit.emit (rendering.docBlock text)).lines.toList = unit.lines.toList ++
      (if rendering.options.docs then docLines text else []).map (repeated unit.depth unit.indentUnit ++ ·) := by
  have filled : ∀ line ∈ docLines text, line ≠ "" := by
    intro line member
    unfold docLines at member
    dsimp only at member
    split at member
    · cases member
    · simp only [List.cons_append, List.mem_cons, List.mem_append, List.mem_map, List.not_mem_nil, or_false] at member
      rcases member with rfl | ⟨inner, -, rfl⟩ | rfl
      · decide
      · rcases docLine_cases inner with starred | ⟨rest, starred⟩ <;> rw [starred] <;> simp
      · decide
  rw [SourceUnit.emit_eq]
  cases wanted : rendering.options.docs with
  | false =>
      have none : (rendering.docBlock text).lines = [] := by simp [Rendering.docBlock, wanted, Fragment.empty]
      simp [none]
  | true =>
      have whole : rendering.docBlock text = (rendering.documenting true).docBlock text := by
        simp [Rendering.docBlock, Rendering.documenting, wanted]
      rw [whole, lines_docBlock, List.map_map]
      have rendered : (docLines text).map ((·.render unit.indentUnit unit.depth) ∘ SourceLine.mk 0) =
          (docLines text).map (repeated unit.depth unit.indentUnit ++ ·) :=
        List.map_congr_left fun line member =>
          render_of_filled (show (SourceLine.mk 0 line).text ≠ "" from filled line member) _ _
      rw [rendered, Array.toList_append, List.toList_toArray, if_pos rfl]

/-- A doc block adds no lines to a unit, whatever stands in it already, or a line that opens a comment, lines that
    begin with a star, and a line that closes the comment. The comment is one, and ends with the last of these lines,
    if and only if the text does not end it. -/
theorem doc_block_is_one_comment_iff (rendering : Rendering) (text : String) (unit : SourceUnit)
    (styled : unit.indentUnit = rendering.options.indent.unit) :
    ∃ margin written, margin = repeated unit.depth unit.indentUnit ∧
      (unit.emit (rendering.docBlock text)).lines.toList = unit.lines.toList ++ written.map (margin ++ ·) ∧
      (written = [] ↔ rendering.options.docs = false ∨ Text.trim text = "") ∧
      (written ≠ [] → ∃ inner, written = "/**" :: inner ++ [" */"] ∧
        inner = (Text.lines (Text.trim text)).map docLine ∧
        (∀ line ∈ inner, '\n' ∉ line.toList ∧ (line = " *" ∨ ∃ rest, line = " * " ++ rest)) ∧
        ((∃ line ∈ "/**" :: inner, EndsComment line) ↔ EndsComment text) ∧
        ∃ comment, Text.joinLines (written.map (margin ++ ·)) = margin ++ comment ∧
          (OneComment comment ↔ ¬EndsComment text)) := by
  refine ⟨_, if rendering.options.docs then docLines text else [], rfl,
    lines_emit_docBlock rendering text unit, ?_, ?_⟩
  · unfold docLines
    cases rendering.options.docs <;> simp
  · intro filled
    obtain ⟨wanted, told⟩ : rendering.options.docs = true ∧
        docLines text = "/**" :: (Text.lines (Text.trim text)).map docLine ++ [" */"] := by
      unfold docLines at filled ⊢
      cases wanted : rendering.options.docs <;> simp_all
    rw [wanted, told]
    have blank : ∀ c ∈ (repeated unit.depth unit.indentUnit).toList, Text.isBlank c = true := by
      rw [styled]
      exact fun c member => isBlank_of_mem_margin member
    have opening : ¬EndsComment "/**" := by decide
    refine ⟨_, rfl, rfl, ?_, ?_, _, String.intercalate_cons_append, ?_⟩
    · intro line member
      obtain ⟨line, inside, rfl⟩ := List.mem_map.mp member
      exact ⟨lineFeed_not_mem_docLine inside, docLine_cases line⟩
    · rw [List.exists_mem_cons_iff, or_iff_right opening, endsComment_docLines]
    · rw [← endsComment_docLines text]
      exact oneComment_lines blank _

/-- A text that ends the comment in its only line: ` b` and the last line are source. -/
theorem doc_block_of_early_end :
    ((SourceUnit.start "    " "").emit ((renderingIn default {} "").docBlock "a */ b")).lines.toList =
      ["/**", " * a */ b", " */"] ∧
    ¬OneComment "/**\n * a */ b\n */" := by
  obtain ⟨margin, written, flush, shown, empty, block⟩ :=
    doc_block_is_one_comment_iff (renderingIn default {} "") "a */ b" (.start "    " "") rfl
  have told : (Text.lines (Text.trim "a */ b")).map docLine = [" * a */ b"] := by decide
  have filled : written ≠ [] := by
    rw [ne_eq, empty]
    exact not_or.mpr ⟨by decide, by cbv⟩
  obtain ⟨inner, rfl, rfl, -, -, comment, whole, one⟩ := block filled
  obtain rfl : margin = "" := flush
  rw [told] at shown whole
  have same : comment = "/**\n * a */ b\n */" := by
    rw [String.empty_append] at whole
    rw [← whole]
    decide
  rw [← same, one, not_not]
  exact ⟨shown.trans (by decide), by decide⟩

end Blueprint.Php
