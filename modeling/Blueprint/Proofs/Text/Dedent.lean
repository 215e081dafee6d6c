/-
Module: Blueprint.Proofs.Text.Dedent
Purpose: What taking the indentation off a block of text keeps. The lines of the block, less the blank ones around
  it, are an inline first line, if the text begins with one, and the lines whose indentation counts. Each of them is
  clipped: it loses blanks at its beginning and at its end and nothing else. The least indentation is the indentation
  of some line, so a line always begins at the margin; and moving all lines that count further in by the same blanks
  moves the least indentation with them.
Main exports: solid, Clips, inlineLines, measuredLines, dedentLines_eq, solid_dedent, IsTidy, isTidy_dedent, pushIn,
  dedent_pushIn, IsMargin, exists_margin, dedent_takes_the_margin
-/
import Blueprint.Proofs.Text.Lines
import Blueprint.Proofs.Text.Words
import Blueprint.Text.Dedent

namespace Blueprint.Text

variable {c : Char} {cs line rest : List Char} {ls : List (List Char)} {n : Nat}

/-! ### Solid characters -/

/-- The characters that are not blank, in their order. -/
def solid (cs : List Char) : List Char :=
  cs.filter (!isBlank ·)

@[simp]
theorem solid_append (front back : List Char) : solid (front ++ back) = solid front ++ solid back :=
  List.filter_append ..

@[simp]
theorem solid_eq_nil_iff : solid cs = [] ↔ isBlankLine cs = true := by
  simp [solid, isBlankLine]

theorem solid_of_blank (blank : ∀ c ∈ cs, isBlank c = true) : solid cs = [] := by
  simpa [isBlankLine] using blank

/-- A carriage return is blank, and so is what a line end takes off a piece. -/
theorem solid_dropReturn (piece : List Char) : solid (dropReturn piece) = solid piece := by
  unfold dropReturn
  split
  · rename_i ends
    have cut : piece.dropLast ++ ['\r'] = piece := List.dropLast_append_getLast? '\r' ends
    have returned : solid ['\r'] = [] := rfl
    calc solid piece.dropLast = solid (piece.dropLast ++ ['\r']) := by
          rw [solid_append, returned, List.append_nil]
      _ = solid piece := by rw [cut]
  · rfl

theorem solid_linesOfPieces (ps : List (List Char)) : (linesOfPieces ps).flatMap solid = ps.flatMap solid := by
  fun_induction linesOfPieces ps with
  | case1 => rfl
  | case2 last empty => simp [List.isEmpty_iff.mp empty, solid]
  | case3 => rfl
  | case4 piece rest _ ih => simp [ih, solid_dropReturn]

/-- Cutting a text into lines loses line ends only. -/
theorem solid_charLines (cs : List Char) : (charLines cs).flatMap solid = solid cs := by
  have cut : (cs.splitOn '\n').flatten = cs.filter (!· == '\n') := flatten_splitOnP (· == '\n') cs
  have lineFeed : ∀ c, isBlank c = false → c ≠ '\n' := by
    rintro _ filled rfl
    exact absurd filled (by decide)
  calc (charLines cs).flatMap solid = solid (cs.splitOn '\n').flatten := by
        rw [charLines, solid_linesOfPieces, solid, List.filter_flatten, List.flatMap_def]
        rfl
    _ = solid cs := by
        rw [cut, solid, solid, List.filter_filter]
        refine List.filter_congr fun c _ => ?_
        by_cases filled : isBlank c = false
        · simp [filled, lineFeed c filled]
        · simp [filled]

/-- Joining lines adds line feeds only. -/
theorem solid_joinLines (ls : List String) :
    solid (joinLines ls).toList = ls.flatMap fun line => solid line.toList := by
  have lineFeed : solid "\n".toList = [] := by decide
  induction ls with
  | nil => rfl
  | cons first rest ih =>
      cases rest with
      | nil => simp [joinLines]
      | cons second rest =>
          rw [joinLines] at ih ⊢
          rw [String.intercalate_cons_cons, String.toList_append, String.toList_append, solid_append, solid_append,
            lineFeed, List.append_nil, ih]
          rfl

/-! ### Clipped lines -/

/-- The second line is the first one without some blanks at its beginning and at its end. -/
def Clips (line clipped : List Char) : Prop :=
  ∃ front back, line = front ++ clipped ++ back ∧ (∀ c ∈ front, isBlank c = true) ∧
    ∀ c ∈ back, isBlank c = true

theorem Clips.solid_eq {clipped : List Char} (clips : Clips line clipped) : solid clipped = solid line := by
  obtain ⟨front, back, rfl, before, behind⟩ := clips
  simp [solid_of_blank before, solid_of_blank behind]

theorem clips_stripBlank (line : List Char) : Clips line (stripBlank line) :=
  exists_around_stripBlank line

/-- Taking the blank end off a line, behind some of its blank beginning, clips the line. -/
theorem clips_dropBlankEnd {front back : List Char} (before : ∀ c ∈ front, isBlank c = true) :
    Clips (front ++ back) (dropBlankEnd back) := by
  refine ⟨front, back.rtakeWhile isBlank, ?_, before, fun c member => List.mem_rtakeWhile_imp member⟩
  have cut : dropBlankEnd back ++ back.rtakeWhile isBlank = back := List.rdropWhile_append_rtakeWhile ..
  rw [List.append_assoc, cut]

/-- What lies before a cut within the indentation of a line is blank. -/
theorem exists_front_of_dropBytes? (within : n ≤ indentation line) (cut : dropBytes? n line = some rest) :
    ∃ front, line = front ++ rest ∧ ∀ c ∈ front, isBlank c = true := by
  fun_induction dropBytes? n line with
  | case1 line => exact ⟨[], by simpa using cut, by simp⟩
  | case2 => cases cut
  | case3 n c cs fits ih =>
      have blank : isBlank c = true := by
        by_contra filled
        simp [indentation, filled, byteLength] at within
      have indented : indentation (c :: cs) = c.utf8Size + indentation cs := by
        simp [indentation, blank, byteLength]
      obtain ⟨front, rfl, before⟩ := ih (by omega) cut
      exact ⟨c :: front, rfl, List.forall_mem_cons.mpr ⟨blank, before⟩⟩
  | case4 => cases cut

/-- A line loses no more than blanks with any part of its indentation, wherever the cut falls. -/
theorem clips_unindent (within : isBlankLine line = false → n ≤ indentation line) :
    Clips line (unindent n line) := by
  unfold unindent
  split
  · rename_i blank
    exact ⟨line, [], by simp, by simpa [isBlankLine] using blank, by simp⟩
  · rename_i filled
    cases cut : dropBytes? n line with
    | none =>
        -- the cut falls inside a character, and the whole blank beginning goes
        have whole : line.takeWhile isBlank ++ dropBlank line = line := List.takeWhile_append_dropWhile
        have clips : Clips (line.takeWhile isBlank ++ dropBlank line) (dropBlankEnd (dropBlank line)) :=
          clips_dropBlankEnd fun c member => List.mem_takeWhile_imp member
        rwa [whole] at clips
    | some rest =>
        obtain ⟨front, rfl, before⟩ := exists_front_of_dropBytes? (within (by simpa using filled)) cut
        exact clips_dropBlankEnd before

/-! ### The shared indentation -/

/-- The shared indentation is that of some line that is not blank, and no such line is indented less. -/
theorem exists_least_indented (member : line ∈ ls) (filled : isBlankLine line = false) :
    ∃ least ∈ ls, isBlankLine least = false ∧ indentation least = sharedIndentation ls ∧
      indentation least ≤ indentation line := by
  have counted : indentation line ∈ (ls.filter fun line => !isBlankLine line).map indentation :=
    List.mem_map_of_mem (List.mem_filter.mpr ⟨member, by simp [filled]⟩)
  cases shared : ((ls.filter fun line => !isBlankLine line).map indentation).min? with
  | none =>
      rw [List.min?_eq_none_iff.mp shared] at counted
      cases counted
  | some m =>
      obtain ⟨among, atMost⟩ := List.min?_eq_some_iff.mp shared
      obtain ⟨least, found, rfl⟩ := List.mem_map.mp among
      obtain ⟨found, filled⟩ := List.mem_filter.mp found
      exact ⟨least, found, by simpa using filled, by simp [sharedIndentation, shared], atMost _ counted⟩

theorem sharedIndentation_le (member : line ∈ ls) (filled : isBlankLine line = false) :
    sharedIndentation ls ≤ indentation line := by
  obtain ⟨least, -, -, shared, atMost⟩ := exists_least_indented member filled
  rwa [shared] at atMost

/-! ### The lines of a block -/

/-- The first line, if it is not blank: it stands right behind the tag that opens the block. -/
def inlineLines : List (List Char) → List (List Char)
  | [] => []
  | first :: _ => if isBlankLine first then [] else [first]

/-- The lines whose indentation counts, less the blank ones around the block. -/
def measuredLines : List (List Char) → List (List Char)
  | [] => []
  | first :: rest => if isBlankLine first then stripBlankLines (first :: rest) else rest.rdropWhile isBlankLine

/-- A block without the blank lines around it is its inline line and the lines whose indentation counts. -/
theorem stripBlankLines_eq (ls : List (List Char)) : stripBlankLines ls = inlineLines ls ++ measuredLines ls := by
  cases ls with
  | nil => rfl
  | cons first rest =>
      by_cases blank : isBlankLine first = true
      · simp [inlineLines, measuredLines, blank]
      · have kept : stripBlankLines (first :: rest) = (first :: rest).rdropWhile isBlankLine := by
          rw [stripBlankLines, List.dropWhile_cons_of_neg blank]
          rfl
        rw [kept, rdropWhile_cons_of_neg blank]
        simp [inlineLines, measuredLines, blank]

/-- The inline line is trimmed, and the others lose the indentation that they share. -/
theorem dedentLines_eq (ls : List (List Char)) :
    dedentLines ls = (inlineLines ls).map stripBlank ++
      (measuredLines ls).map (unindent (sharedIndentation (measuredLines ls))) := by
  unfold dedentLines
  cases ls with
  | nil => rfl
  | cons first rest =>
      by_cases blank : isBlankLine first = true
      · cases block : stripBlankLines (first :: rest) <;> simp [inlineLines, measuredLines, blank, block]
      · simp [stripBlankLines_eq, inlineLines, measuredLines, blank]

/-- Every line that comes out is a line of the block, clipped. -/
theorem exists_clips (member : line ∈ dedentLines ls) : ∃ whole ∈ stripBlankLines ls, Clips whole line := by
  rw [dedentLines_eq] at member
  rw [stripBlankLines_eq]
  rcases List.mem_append.mp member with inline | measured
  · obtain ⟨whole, among, rfl⟩ := List.mem_map.mp inline
    exact ⟨whole, List.mem_append_left _ among, clips_stripBlank whole⟩
  · obtain ⟨whole, among, rfl⟩ := List.mem_map.mp measured
    exact ⟨whole, List.mem_append_right _ among, clips_unindent (sharedIndentation_le among)⟩

/-- No solid character changes its line. -/
theorem map_solid_dedentLines (ls : List (List Char)) :
    (dedentLines ls).map solid = (stripBlankLines ls).map solid := by
  rw [dedentLines_eq, stripBlankLines_eq, List.map_append, List.map_append, List.map_map, List.map_map]
  congr 1
  · exact List.map_congr_left fun line _ => (clips_stripBlank line).solid_eq
  · exact List.map_congr_left fun line member => (clips_unindent (sharedIndentation_le member)).solid_eq

/-- The blank lines around a block hold no solid characters. -/
theorem solid_stripBlankLines (ls : List (List Char)) : (stripBlankLines ls).flatMap solid = ls.flatMap solid := by
  have none : ∀ blanks : List (List Char), (∀ line ∈ blanks, isBlankLine line = true) →
      blanks.flatMap solid = [] :=
    fun blanks blank => List.flatMap_eq_nil_iff.mpr fun line member => solid_eq_nil_iff.mpr (blank line member)
  have before : ls.takeWhile isBlankLine ++ ls.dropWhile isBlankLine = ls := List.takeWhile_append_dropWhile
  have behind : stripBlankLines ls ++ (ls.dropWhile isBlankLine).rtakeWhile isBlankLine = ls.dropWhile isBlankLine :=
    List.rdropWhile_append_rtakeWhile ..
  calc (stripBlankLines ls).flatMap solid
      = (stripBlankLines ls ++ (ls.dropWhile isBlankLine).rtakeWhile isBlankLine).flatMap solid := by
        rw [List.flatMap_append, none _ fun line member => List.mem_rtakeWhile_imp member, List.append_nil]
    _ = (ls.takeWhile isBlankLine ++ ls.dropWhile isBlankLine).flatMap solid := by
        rw [behind, List.flatMap_append, none _ fun line member => List.mem_takeWhile_imp member, List.nil_append]
    _ = ls.flatMap solid := by rw [before]

/-- Nothing but blanks is added or lost. -/
theorem solid_dedent (s : String) : solid (dedent s).toList = solid s.toList := by
  calc solid (dedent s).toList = (dedentLines (charLines s.toList)).flatMap solid := by
        simp [dedent, solid_joinLines, List.flatMap_map]
    _ = (stripBlankLines (charLines s.toList)).flatMap solid := by
        rw [List.flatMap_def, map_solid_dedentLines, ← List.flatMap_def]
    _ = solid s.toList := by rw [solid_stripBlankLines, solid_charLines]

/-! ### The ends of the lines and of the block -/

/-- A line that comes out does not end in a blank. -/
theorem solid_end_of_mem_dedentLines (member : line ∈ dedentLines ls) (ends : c ∈ line.getLast?) :
    isBlank c = false := by
  have trimmed : ∀ cs : List Char, c ∈ (dropBlankEnd cs).getLast? → isBlank c = false :=
    fun cs => not_of_mem_getLast?_rdropWhile
  rw [dedentLines_eq] at member
  rcases List.mem_append.mp member with inline | measured
  · obtain ⟨whole, -, rfl⟩ := List.mem_map.mp inline
    exact trimmed _ ends
  · obtain ⟨whole, -, rfl⟩ := List.mem_map.mp measured
    unfold unindent at ends
    split at ends
    · cases ends
    · exact trimmed _ ends

/-- Neither the first nor the last line of a block without the blank lines around it is blank. -/
theorem filled_ends_stripBlankLines (ls : List (List Char)) :
    (∀ first ∈ (stripBlankLines ls).head?, isBlankLine first = false) ∧
      ∀ last ∈ (stripBlankLines ls).getLast?, isBlankLine last = false := by
  refine ⟨fun first begins => ?_, fun last => not_of_mem_getLast?_rdropWhile⟩
  obtain ⟨rest, block⟩ := List.head?_eq_some_iff.mp begins
  obtain ⟨behind, cut⟩ : stripBlankLines ls <+: ls.dropWhile isBlankLine := List.rdropWhile_prefix ..
  have stopped := List.head?_dropWhile_not isBlankLine ls
  rwa [← cut, block] at stopped

/-- A line is blank when it comes out only if it was before. -/
theorem map_isBlankLine_dedentLines (ls : List (List Char)) :
    (dedentLines ls).map isBlankLine = (stripBlankLines ls).map isBlankLine := by
  have bySolid : isBlankLine = List.isEmpty ∘ solid := by
    funext line
    rw [Bool.eq_iff_iff, ← solid_eq_nil_iff]
    exact List.isEmpty_iff.symm
  rw [bySolid, ← List.map_map, map_solid_dedentLines, List.map_map]

theorem filled_ends_dedentLines (ls : List (List Char)) :
    (∀ first ∈ (dedentLines ls).head?, isBlankLine first = false) ∧
      ∀ last ∈ (dedentLines ls).getLast?, isBlankLine last = false := by
  have same := map_isBlankLine_dedentLines ls
  obtain ⟨firstFilled, lastFilled⟩ := filled_ends_stripBlankLines ls
  constructor
  · intro first begins
    have heads := congrArg List.head? same
    rw [List.head?_map, List.head?_map, Option.mem_def.mp begins] at heads
    obtain ⟨whole, begins, blankness⟩ := Option.map_eq_some_iff.mp heads.symm
    exact blankness.symm.trans (firstFilled whole begins)
  · intro last ends
    have lasts := congrArg List.getLast? same
    rw [List.getLast?_map, List.getLast?_map, Option.mem_def.mp ends] at lasts
    obtain ⟨whole, ends, blankness⟩ := Option.map_eq_some_iff.mp lasts.symm
    exact blankness.symm.trans (lastFilled whole ends)

/-- The text has no blank line at either end, unless it is empty, and no line that ends in a blank. -/
structure IsTidy (s : String) : Prop where
  first : s ≠ "" → ∀ piece ∈ (pieces s).head?, isBlankText piece = false
  last : s ≠ "" → ∀ piece ∈ (pieces s).getLast?, isBlankText piece = false
  ends : ∀ piece ∈ pieces s, ∀ c ∈ piece.toList.getLast?, isBlank c = false

theorem splitOn_joinLines (filled : ls ≠ []) (single : ∀ line ∈ ls, '\n' ∉ line) :
    (joinLines (ls.map String.ofList)).toList.splitOn '\n' = ls := by
  have characters : (joinLines (ls.map String.ofList)).toList = ['\n'].intercalate ls := by
    simp [joinLines, Function.comp_def]
  rw [characters, List.splitOn_intercalate '\n' single filled]

theorem lineFeed_not_mem_of_mem_dedentLines (member : line ∈ dedentLines (charLines cs)) : '\n' ∉ line := by
  obtain ⟨whole, among, front, back, rfl, -, -⟩ := exists_clips member
  have inText : front ++ line ++ back ∈ charLines cs :=
    ((List.rdropWhile_prefix ..).sublist.trans (List.dropWhile_sublist _)).subset among
  have single := not_mem_of_mem_linesOfPieces (fun _ => not_mem_of_mem_splitOn) _ inText
  simp only [List.mem_append, not_or] at single
  exact single.1.2

theorem pieces_dedent {s : String} (filled : dedentLines (charLines s.toList) ≠ []) :
    pieces (dedent s) = (dedentLines (charLines s.toList)).map String.ofList := by
  rw [pieces, splitText, dedent, splitOn_joinLines filled fun _ => lineFeed_not_mem_of_mem_dedentLines]

theorem isTidy_dedent (s : String) : IsTidy (dedent s) := by
  by_cases none : dedentLines (charLines s.toList) = []
  · have empty : dedent s = "" := by simp [dedent, none, joinLines]
    have single : pieces "" = [""] := by simp [pieces, splitText]
    rw [empty]
    exact ⟨fun filled => absurd rfl filled, fun filled => absurd rfl filled, by simp [single]⟩
  · have lines := pieces_dedent none
    obtain ⟨firstFilled, lastFilled⟩ := filled_ends_dedentLines (charLines s.toList)
    refine ⟨fun _ piece begins => ?_, fun _ piece ends => ?_, fun piece member c ends => ?_⟩
    · rw [lines, List.head?_map] at begins
      obtain ⟨first, among, rfl⟩ := Option.map_eq_some_iff.mp begins
      simpa [isBlankText, isBlankLine] using firstFilled first among
    · rw [lines, List.getLast?_map] at ends
      obtain ⟨last, among, rfl⟩ := Option.map_eq_some_iff.mp ends
      simpa [isBlankText, isBlankLine] using lastFilled last among
    · rw [lines] at member
      obtain ⟨line, among, rfl⟩ := List.mem_map.mp member
      rw [String.toList_ofList] at ends
      exact solid_end_of_mem_dedentLines among ends

/-! ### Moving a block further in -/

/-- The line behind `w`; a blank line stays as it is. -/
def indentLine (w line : List Char) : List Char :=
  if isBlankLine line then line else w ++ line

/-- The lines behind `w`, but for the first one: if it is not blank it stands behind the tag that opens the block. -/
def indentRest (w : List Char) : List (List Char) → List (List Char)
  | [] => []
  | first :: rest => first :: rest.map (indentLine w)

/-- The text with `w` before every line that is not blank, other than an inline first line. -/
def pushIn (w s : String) : String :=
  joinLines ((indentRest w.toList (s.toList.splitOn '\n')).map String.ofList)

section PushIn

variable {w : List Char}

theorem indentLine_of_blank (empty : isBlankLine line = true) : indentLine w line = line :=
  if_pos empty

theorem indentLine_of_filled (filled : isBlankLine line = false) : indentLine w line = w ++ line :=
  if_neg (by simp [filled])

theorem indentLine_eq_nil_iff : indentLine w line = [] ↔ line = [] := by
  cases blank : isBlankLine line with
  | true => rw [indentLine_of_blank blank]
  | false =>
      have some : line ≠ [] := by
        rintro rfl
        cases blank
      simp [indentLine_of_filled blank, some]

/-- A first line that is blank stays as it is, like every blank line. -/
theorem indentRest_eq_map {first : List Char} (empty : isBlankLine first = true) (rest : List (List Char)) :
    indentRest w (first :: rest) = (first :: rest).map (indentLine w) := by
  rw [indentRest, List.map_cons, indentLine_of_blank empty]

theorem dropReturn_indentLine (piece : List Char) :
    dropReturn (indentLine w piece) = indentLine w (dropReturn piece) := by
  have same : isBlankLine (dropReturn piece) = isBlankLine piece := by
    rw [Bool.eq_iff_iff, ← solid_eq_nil_iff, ← solid_eq_nil_iff, solid_dropReturn]
  cases blank : isBlankLine piece with
  | true => rw [indentLine_of_blank blank, indentLine_of_blank (same.trans blank)]
  | false =>
      have some : piece ≠ [] := by
        rintro rfl
        cases blank
      rw [indentLine_of_filled blank, indentLine_of_filled (same.trans blank)]
      unfold dropReturn
      rw [List.getLast?_append_of_ne_nil _ some, List.dropLast_append_of_ne_nil some]
      split <;> rfl

theorem linesOfPieces_map_indentLine (ps : List (List Char)) :
    linesOfPieces (ps.map (indentLine w)) = (linesOfPieces ps).map (indentLine w) := by
  fun_induction linesOfPieces ps with
  | case1 => rfl
  | case2 last empty => simp [linesOfPieces, indentLine_eq_nil_iff, List.isEmpty_iff.mp empty]
  | case3 last filled => simp_all [linesOfPieces, indentLine_eq_nil_iff]
  | case4 piece rest several ih =>
      obtain ⟨second, rest, rfl⟩ := List.exists_cons_of_ne_nil several
      rw [List.map_cons, List.map_cons, linesOfPieces, dropReturn_indentLine, ← List.map_cons, ih]
      · rfl
      · simp

/-- Lines are moved in as the pieces that they come from. -/
theorem linesOfPieces_indentRest (ps : List (List Char)) :
    linesOfPieces (indentRest w ps) = indentRest w (linesOfPieces ps) := by
  rcases ps with _ | ⟨first, _ | ⟨second, rest⟩⟩
  · rfl
  · by_cases empty : first = [] <;> simp [indentRest, linesOfPieces, empty]
  · have others := linesOfPieces_map_indentLine (w := w) (second :: rest)
    rw [indentRest, List.map_cons, linesOfPieces, ← List.map_cons, others]
    · rfl
    · simp

theorem charLines_pushIn {w s : String} (single : '\n' ∉ w.toList) :
    charLines (pushIn w s).toList = indentRest w.toList (charLines s.toList) := by
  have cut : (pushIn w s).toList.splitOn '\n' = indentRest w.toList (s.toList.splitOn '\n') := by
    apply splitOn_joinLines
    · obtain ⟨first, rest, parts⟩ := List.exists_cons_of_ne_nil (List.splitOn_ne_nil '\n' s.toList)
      simp [parts, indentRest]
    · have parts : ∀ piece ∈ s.toList.splitOn '\n', '\n' ∉ piece := fun _ => not_mem_of_mem_splitOn
      cases split : s.toList.splitOn '\n' with
      | nil => simp [indentRest]
      | cons first rest =>
          rw [split] at parts
          intro piece member
          rcases List.mem_cons.mp member with rfl | later
          · exact parts _ List.mem_cons_self
          · obtain ⟨before, among, rfl⟩ := List.mem_map.mp later
            have rest := parts before (List.mem_cons_of_mem _ among)
            unfold indentLine
            split <;> simp [rest, single]
  rw [charLines, cut, linesOfPieces_indentRest, charLines]

theorem inlineLines_indentRest (ls : List (List Char)) : inlineLines (indentRest w ls) = inlineLines ls := by
  cases ls <;> rfl

theorem byteLength_append (front back : List Char) :
    byteLength (front ++ back) = byteLength front + byteLength back := by
  induction front with
  | nil => simp [byteLength]
  | cons c front ih => simp [byteLength, ih, Nat.add_assoc]

/-- A cut that takes all of `w` and more falls as far into what follows. -/
theorem dropBytes?_append (w cs : List Char) (n : Nat) :
    dropBytes? (byteLength w + n) (w ++ cs) = dropBytes? n cs := by
  induction w with
  | nil => simp [byteLength]
  | cons c w ih =>
      have positive : 0 < c.utf8Size := c.utf8Size_pos
      obtain ⟨k, bytes⟩ : ∃ k, byteLength (c :: w) + n = k + 1 := ⟨byteLength (c :: w) + n - 1, by
        simp only [byteLength]
        omega⟩
      have fits : c.utf8Size ≤ k + 1 := by
        simp only [byteLength] at bytes
        omega
      have remains : k + 1 - c.utf8Size = byteLength w + n := by
        simp only [byteLength] at bytes
        omega
      rw [bytes, List.cons_append, dropBytes?, if_pos fits, remains, ih]

section Blank

variable (blank : ∀ c ∈ w, isBlank c = true)

include blank

theorem isBlankLine_indentLine (line : List Char) : isBlankLine (indentLine w line) = isBlankLine line := by
  cases empty : isBlankLine line with
  | true => rw [indentLine_of_blank empty, empty]
  | false =>
      have spaces : w.all isBlank = true := List.all_eq_true.mpr blank
      rw [indentLine_of_filled empty, isBlankLine, List.all_append, spaces]
      exact empty

theorem indentation_append (line : List Char) : indentation (w ++ line) = byteLength w + indentation line := by
  rw [indentation, List.takeWhile_append_of_pos blank, byteLength_append, indentation]

theorem unindent_append (filled : isBlankLine line = false) (n : Nat) :
    unindent (byteLength w + n) (w ++ line) = unindent n line := by
  have kept : isBlankLine (w ++ line) = false := by
    have moved := isBlankLine_indentLine blank line
    rwa [indentLine_of_filled filled, filled] at moved
  have solidPart : dropBlank (w ++ line) = dropBlank line := List.dropWhile_append_of_pos blank
  simp only [unindent, kept, filled, dropBytes?_append, solidPart]

/-- The blank lines around the block are the same when the other lines are moved in. -/
theorem measuredLines_indentRest (ls : List (List Char)) :
    measuredLines (indentRest w ls) = (measuredLines ls).map (indentLine w) := by
  have same : isBlankLine ∘ indentLine w = isBlankLine := funext (isBlankLine_indentLine blank)
  have behind : ∀ ls : List (List Char),
      (ls.map (indentLine w)).rdropWhile isBlankLine = (ls.rdropWhile isBlankLine).map (indentLine w) := by
    intro ls
    rw [List.rdropWhile, List.rdropWhile, ← List.map_reverse, List.dropWhile_map, same, List.map_reverse]
  cases ls with
  | nil => rfl
  | cons first rest =>
      cases empty : isBlankLine first with
      | true =>
          have whole : measuredLines (first :: rest) = stripBlankLines (first :: rest) := by
            simp [measuredLines, empty]
          have moved : measuredLines (indentRest w (first :: rest)) =
              stripBlankLines ((first :: rest).map (indentLine w)) := by
            rw [← indentRest_eq_map empty]
            simp [measuredLines, indentRest, empty]
          have strip : ∀ ls, stripBlankLines ls = (ls.dropWhile isBlankLine).rdropWhile isBlankLine := fun _ => rfl
          rw [moved, whole, strip, strip, List.dropWhile_map, same, behind]
      | false => simp [measuredLines, indentRest, empty, behind]

/-- The shared indentation moves with the lines. -/
theorem sharedIndentation_map (member : line ∈ ls) (filled : isBlankLine line = false) :
    sharedIndentation (ls.map (indentLine w)) = byteLength w + sharedIndentation ls := by
  have moved : ∀ line, isBlankLine line = false →
      indentation (indentLine w line) = byteLength w + indentation line :=
    fun line filled => by rw [indentLine_of_filled filled, indentation_append blank]
  have filled' : isBlankLine (indentLine w line) = false := (isBlankLine_indentLine blank line).trans filled
  obtain ⟨least, among, solid, shared, -⟩ := exists_least_indented member filled
  obtain ⟨_, among', solid', shared', -⟩ := exists_least_indented (List.mem_map_of_mem member) filled'
  obtain ⟨other, inside, rfl⟩ := List.mem_map.mp among'
  have solid' : isBlankLine other = false := (isBlankLine_indentLine blank other).symm.trans solid'
  have atMost : sharedIndentation (ls.map (indentLine w)) ≤ indentation (indentLine w least) :=
    sharedIndentation_le (List.mem_map_of_mem among) ((isBlankLine_indentLine blank least).trans solid)
  have atLeast : sharedIndentation ls ≤ indentation other := sharedIndentation_le inside solid'
  rw [moved least solid, shared] at atMost
  rw [moved other solid'] at shared'
  omega

theorem dedentLines_indentRest (ls : List (List Char)) : dedentLines (indentRest w ls) = dedentLines ls := by
  rw [dedentLines_eq, dedentLines_eq, inlineLines_indentRest, measuredLines_indentRest blank, List.map_map]
  congr 1
  refine List.map_congr_left fun line member => ?_
  cases empty : isBlankLine line with
  | true => simp [indentLine_of_blank empty, unindent, empty]
  | false =>
      rw [Function.comp_apply, sharedIndentation_map blank member empty, indentLine_of_filled empty,
        unindent_append blank empty]

end Blank

end PushIn

/-- Moving a block further in by blanks, but for an inline first line, changes nothing. -/
theorem dedent_pushIn {w s : String} (blank : ∀ c ∈ w.toList, isBlank c = true) (single : '\n' ∉ w.toList) :
    dedent (pushIn w s) = dedent s := by
  rw [dedent, charLines_pushIn single, dedentLines_indentRest blank, dedent]

/-! ### Indentation by spaces and tabs -/

/-- The indentation of the line is spaces and tabs. -/
def IsNarrow (line : List Char) : Prop :=
  ∀ c ∈ line.takeWhile isBlank, c = ' ' ∨ c = '\t'

/-- Spaces and tabs take one byte each. -/
theorem byteLength_of_narrow (narrow : ∀ c ∈ cs, c = ' ' ∨ c = '\t') : byteLength cs = cs.length := by
  induction cs with
  | nil => rfl
  | cons c cs ih =>
      obtain ⟨single, narrow⟩ := List.forall_mem_cons.mp narrow
      have size : c.utf8Size = 1 := by
        rcases single with rfl | rfl <;> rfl
      rw [byteLength, size, ih narrow, List.length_cons, Nat.add_comm]

theorem IsNarrow.indentation_eq (narrow : IsNarrow line) : indentation line = (line.takeWhile isBlank).length :=
  byteLength_of_narrow narrow

/-- Within such an indentation a number of bytes is a number of characters. -/
theorem IsNarrow.unindent_eq (narrow : IsNarrow line) (filled : isBlankLine line = false)
    (within : n ≤ indentation line) : unindent n line = dropBlankEnd (line.drop n) := by
  have inside : n ≤ (line.takeWhile isBlank).length := narrow.indentation_eq ▸ within
  have cut : line.take n ++ line.drop n = line := List.take_append_drop n line
  have blanks : line.take n = (line.takeWhile isBlank).take n := by
    conv_lhs => rw [← List.takeWhile_append_dropWhile (p := isBlank) (l := line)]
    exact List.take_append_of_le_length inside
  have bytes : byteLength (line.take n) = n := by
    rw [blanks, byteLength_of_narrow fun c member => narrow c (List.mem_of_mem_take member), List.length_take,
      Nat.min_eq_left inside]
  have dropped := dropBytes?_append (line.take n) (line.drop n) 0
  rw [cut, bytes, Nat.add_zero, dropBytes?] at dropped
  simp [unindent, filled, dropped]

/-- Nothing is left of a blank line, whatever is cut off it. -/
theorem dropBlankEnd_drop_of_blank (blank : isBlankLine line = true) (n : Nat) : dropBlankEnd (line.drop n) = [] := by
  refine List.rdropWhile_eq_nil_iff.mpr fun c member => ?_
  exact List.all_eq_true.mp blank c (List.mem_of_mem_drop member)

/-- The number of characters that every line whose indentation counts can lose, and that some such line, if there
    is any that is not blank, has for its whole indentation. -/
structure IsMargin (ls : List (List Char)) (n : Nat) : Prop where
  within : ∀ line ∈ ls, isBlankLine line = false → n ≤ (line.takeWhile isBlank).length
  attained : (∃ line ∈ ls, isBlankLine line = false) →
    ∃ line ∈ ls, isBlankLine line = false ∧ (line.takeWhile isBlank).length = n

/-- Where indentation is spaces and tabs, all lines that count lose the same number of characters. -/
theorem exists_margin (narrow : ∀ line ∈ measuredLines ls, isBlankLine line = false → IsNarrow line) :
    ∃ n, IsMargin (measuredLines ls) n ∧
      dedentLines ls = (inlineLines ls).map stripBlank ++
        (measuredLines ls).map fun line => dropBlankEnd (line.drop n) := by
  refine ⟨sharedIndentation (measuredLines ls), ⟨fun line member filled => ?_, ?_⟩, ?_⟩
  · exact (narrow line member filled).indentation_eq ▸ sharedIndentation_le member filled
  · rintro ⟨line, member, filled⟩
    obtain ⟨least, among, solid, shared, -⟩ := exists_least_indented member filled
    exact ⟨least, among, solid, (narrow least among solid).indentation_eq ▸ shared⟩
  · rw [dedentLines_eq]
    congr 1
    refine List.map_congr_left fun line member => ?_
    cases empty : isBlankLine line with
    | true => simp [unindent, empty, dropBlankEnd_drop_of_blank empty]
    | false => exact (narrow line member empty).unindent_eq empty (sharedIndentation_le member empty)

/-! ### The whole block -/

/-- Taking the indentation off a block of text loses blanks only; leaves no blank line at either end and no blank at
    the end of a line; where the indentation is spaces and tabs, moves all lines but an inline first one to the left
    by the same number of characters, until one of them begins at the margin; and takes no notice of how far such a
    block has been moved in. -/
theorem dedent_takes_the_margin (s : String) :
    solid (dedent s).toList = solid s.toList ∧
    IsTidy (dedent s) ∧
    ((∀ line ∈ measuredLines (charLines s.toList), isBlankLine line = false → IsNarrow line) →
      ∃ n, IsMargin (measuredLines (charLines s.toList)) n ∧
        dedent s = joinLines (((inlineLines (charLines s.toList)).map stripBlank ++
          (measuredLines (charLines s.toList)).map fun line => dropBlankEnd (line.drop n)).map String.ofList)) ∧
    ∀ w : String, (∀ c ∈ w.toList, c = ' ' ∨ c = '\t') → dedent (pushIn w s) = dedent s := by
  refine ⟨solid_dedent s, isTidy_dedent s, fun narrow => ?_, fun w narrow => dedent_pushIn ?_ ?_⟩
  · obtain ⟨n, margin, lines⟩ := exists_margin narrow
    exact ⟨n, margin, by rw [dedent, lines]⟩
  · intro c member
    rcases narrow c member with rfl | rfl <;> rfl
  · intro member
    rcases narrow '\n' member with same | same <;> cases same

/-- A listing behind an inline title, indented by tabs and spaces. -/
def listing : String :=
  "title \r\n\t  one\n\n\t    two  \n\t "

/-- The lines of the listing are moved to the margin, and so they are when the listing is moved in. -/
theorem dedent_listing :
    (∃ n, IsMargin (measuredLines (charLines listing.toList)) n) ∧
      dedent (pushIn "\t " listing) = "title\none\n\n  two" := by
  obtain ⟨-, -, moves, still⟩ := dedent_takes_the_margin listing
  have narrow : ∀ line ∈ measuredLines (charLines listing.toList), isBlankLine line = false → IsNarrow line := by
    have all : (measuredLines (charLines listing.toList)).all fun line =>
        (line.takeWhile isBlank).all fun c => c == ' ' || c == '\t' := by decide +kernel
    intro line member _ c blank
    simpa using List.all_eq_true.mp (List.all_eq_true.mp all line member) c blank
  have blanks : ∀ c ∈ "\t ".toList, c = ' ' ∨ c = '\t' := by
    intro c member
    simpa [or_comm] using member
  obtain ⟨n, margin, -⟩ := moves narrow
  refine ⟨⟨n, margin⟩, ?_⟩
  rw [still "\t " blanks]
  decide +kernel

end Blueprint.Text
