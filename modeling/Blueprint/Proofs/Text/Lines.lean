/-
Module: Blueprint.Proofs.Text.Lines
Purpose: Cutting a text at a separator, and trimming it. What stands before the first separator goes with
  the first part; a separator between two texts separates their parts. Line feeds are the separators of
  pieces. A blank end is taken from the last part that holds anything, and nothing is taken from a text that
  neither begins nor ends with a blank.
Main exports: splitText_append_of_not_mem, splitText_append_separator, splitText_of_not_mem,
  pieces_append_of_not_mem, pieces_joinLines, pieces_of_not_mem, not_mem_of_mem_lines,
  not_of_mem_getLast?_rdropWhile, trimEnd_append, isBlank_of_mem_getLast?_trimEnd, trimEnd_trim,
  exists_around_stripBlank, trim_eq_self, BeginsSolid, exists_pieces_of_beginsSolid
-/
import Blueprint.Text.Blank
import Blueprint.Text.Lines
import Mathlib.Data.List.DropRight

namespace Blueprint.Text

/-! ### Pieces -/

/-- What holds no separator goes with the first part of what follows it. -/
theorem splitOn_append_of_not_mem {separator : Char} {front : List Char} (single : separator ∉ front)
    (back : List Char) :
    (front ++ back).splitOn separator = (back.splitOn separator).modifyHead (front ++ ·) := by
  induction front with
  | nil =>
      obtain ⟨first, rest, parts⟩ := List.exists_cons_of_ne_nil (List.splitOn_ne_nil separator back)
      simp [parts]
  | cons c front ih =>
      rw [List.mem_cons, not_or] at single
      obtain ⟨other, single⟩ := single
      have differs : (c == separator) = false := by simpa using Ne.symm other
      obtain ⟨first, rest, parts⟩ := List.exists_cons_of_ne_nil (List.splitOn_ne_nil separator back)
      rw [List.cons_append, List.splitOn_cons_eq_if_modifyHead, differs, ih single, parts]
      rfl

/-- A text that holds no separator goes with the first part of what follows it. -/
theorem splitText_append_of_not_mem {separator : Char} {front : String} (single : separator ∉ front.toList)
    (back : String) :
    splitText separator (front ++ back) = (splitText separator back).modifyHead (front ++ ·) := by
  unfold splitText
  rw [String.toList_append, splitOn_append_of_not_mem single]
  obtain ⟨first, rest, parts⟩ := List.exists_cons_of_ne_nil (List.splitOn_ne_nil separator back.toList)
  simp [parts]

/-- A separator stands between the parts before it and those behind it. -/
theorem splitText_append_separator (separator : Char) (front back : String) :
    splitText separator (front ++ String.ofList [separator] ++ back) =
      splitText separator front ++ splitText separator back := by
  unfold splitText
  rw [String.toList_append, String.toList_append, String.toList_ofList, List.append_assoc,
    List.singleton_append, List.splitOn_append_cons_self, List.map_append]

/-- A text without separators is one part. -/
theorem splitText_of_not_mem {separator : Char} {s : String} (single : separator ∉ s.toList) :
    splitText separator s = [s] := by
  have whole := splitText_append_of_not_mem single ""
  have empty : splitText separator "" = [""] := by simp [splitText]
  rwa [String.append_empty, empty, List.modifyHead_cons, String.append_empty] at whole

/-- What holds no line feed goes with the first piece of what follows it. -/
theorem pieces_append_of_not_mem {front : String} (single : '\n' ∉ front.toList) (back : String) :
    pieces (front ++ back) = (pieces back).modifyHead (front ++ ·) :=
  splitText_append_of_not_mem single back

/-- A line feed separates the pieces before it from those behind it. -/
theorem pieces_append_lineFeed (front back : String) :
    pieces (front ++ "\n" ++ back) = pieces front ++ pieces back :=
  splitText_append_separator '\n' front back

/-- The pieces of joined lines are those of each line in turn. -/
theorem pieces_joinLines {ls : List String} (filled : ls ≠ []) :
    pieces (joinLines ls) = ls.flatMap pieces := by
  induction ls with
  | nil => exact absurd rfl filled
  | cons first rest ih =>
      cases rest with
      | nil => simp [joinLines]
      | cons second rest =>
          have joined : joinLines (first :: second :: rest) =
              first ++ "\n" ++ joinLines (second :: rest) := by
            rw [joinLines, String.intercalate_cons_cons]
            rfl
          rw [joined, pieces_append_lineFeed, ih (List.cons_ne_nil _ _)]
          exact List.flatMap_cons.symm

/-- The parts between separators hold no separator. -/
theorem not_mem_of_mem_splitOn {separator : Char} {cs part : List Char} (member : part ∈ cs.splitOn separator) :
    separator ∉ part := by
  induction cs generalizing part with
  | nil =>
      rw [List.splitOn_nil, List.mem_singleton] at member
      rw [member]
      exact List.not_mem_nil
  | cons c cs ih =>
      obtain ⟨first, rest, parts⟩ := List.exists_cons_of_ne_nil (List.splitOn_ne_nil separator cs)
      rw [List.splitOn_cons_eq_if_modifyHead] at member
      split at member
      · rcases List.mem_cons.mp member with rfl | later
        · exact List.not_mem_nil
        · exact ih later
      · rename_i other
        rw [parts] at ih member
        rcases List.mem_cons.mp member with rfl | later
        · rw [List.mem_cons, not_or]
          exact ⟨fun same => other (beq_iff_eq.mpr same.symm), ih List.mem_cons_self⟩
        · exact ih (List.mem_cons_of_mem _ later)

/-- A text without line feeds is one piece. -/
theorem pieces_of_not_mem {s : String} (single : '\n' ∉ s.toList) : pieces s = [s] :=
  splitText_of_not_mem single

theorem not_mem_of_mem_linesOfPieces {c : Char} {ps : List (List Char)} (absent : ∀ p ∈ ps, c ∉ p) :
    ∀ line ∈ linesOfPieces ps, c ∉ line := by
  fun_induction linesOfPieces ps with
  | case1 => exact absent
  | case2 => exact fun line none => absurd none List.not_mem_nil
  | case3 => exact absent
  | case4 piece rest _ ih =>
      intro line member
      rcases List.mem_cons.mp member with rfl | later
      · intro inside
        apply absent piece List.mem_cons_self
        unfold dropReturn at inside
        split at inside
        · exact (List.dropLast_prefix piece).subset inside
        · exact inside
      · exact ih (fun p inside => absent p (List.mem_cons_of_mem _ inside)) line later

/-- The lines of a text hold no line feed. -/
theorem not_mem_of_mem_lines {s line : String} (member : line ∈ lines s) : '\n' ∉ line.toList := by
  obtain ⟨cs, found, rfl⟩ := List.mem_map.mp member
  rw [String.toList_ofList]
  exact not_mem_of_mem_linesOfPieces (fun _ => not_mem_of_mem_splitOn) cs found

/-! ### Blanks at the end -/

theorem dropBlankEnd_append {front back : List Char} (filled : dropBlankEnd back ≠ []) :
    dropBlankEnd (front ++ back) = front ++ dropBlankEnd back := by
  have left : (back.reverse.dropWhile isBlank).isEmpty = false := by
    simpa [dropBlankEnd] using filled
  unfold dropBlankEnd
  rw [List.reverse_append, List.dropWhile_append, left]
  simp

/-- An element that fails the test stays, whatever is taken off behind it. -/
theorem rdropWhile_cons_of_neg {α : Type} {test : α → Bool} {first : α} (fails : ¬test first = true) (rest : List α) :
    (first :: rest).rdropWhile test = first :: rest.rdropWhile test := by
  induction rest using List.reverseRecOn with
  | nil => simp [List.rdropWhile_singleton, fails]
  | append_singleton rest last ih =>
      rw [← List.cons_append, List.rdropWhile_concat, List.rdropWhile_concat, ih]
      split <;> rfl

/-- What stands last is not taken off. -/
theorem not_of_mem_getLast?_rdropWhile {α : Type} {test : α → Bool} {l : List α} {last : α}
    (ends : last ∈ (l.rdropWhile test).getLast?) : test last = false := by
  rw [List.rdropWhile, List.getLast?_reverse] at ends
  have stopped := List.head?_dropWhile_not test l.reverse
  rwa [Option.mem_def.mp ends] at stopped

/-- A character that is not blank stays, whatever follows it. -/
theorem dropBlankEnd_cons {c : Char} (solid : isBlank c = false) (cs : List Char) :
    dropBlankEnd (c :: cs) = c :: dropBlankEnd cs :=
  rdropWhile_cons_of_neg (by simp [solid]) cs

/-- The blank end of a text is the blank end of its last part, if anything but blanks is in that part. -/
theorem trimEnd_append {front back : String} (filled : trimEnd back ≠ "") :
    trimEnd (front ++ back) = front ++ trimEnd back := by
  have left : dropBlankEnd back.toList ≠ [] := by
    intro none
    apply filled
    rw [trimEnd, none, String.ofList_nil]
  apply String.toList_injective
  rw [toList_trimEnd, String.toList_append, dropBlankEnd_append left, String.toList_append,
    toList_trimEnd]

/-- A text that has lost its blank end does not end in a blank. -/
theorem isBlank_of_mem_getLast?_trimEnd {s : String} {last : Char} (ends : last ∈ (trimEnd s).toList.getLast?) :
    isBlank last = false := by
  rw [toList_trimEnd] at ends
  exact not_of_mem_getLast?_rdropWhile ends

theorem mem_of_mem_trimEnd {c : Char} {s : String} (member : c ∈ (trimEnd s).toList) : c ∈ s.toList := by
  rw [toList_trimEnd] at member
  exact (List.rdropWhile_prefix isBlank s.toList).subset member

/-- Nothing is left to take from the end of a trimmed text. -/
theorem trimEnd_trim (s : String) : trimEnd (trim s) = trim s := by
  rw [trimEnd, toList_trim, stripBlank, dropBlankEnd, dropBlankEnd, List.reverse_reverse,
    List.dropWhile_idempotent]
  rfl

/-- What is trimmed off at either end is blank. -/
theorem exists_around_stripBlank (cs : List Char) :
    ∃ front back, cs = front ++ stripBlank cs ++ back ∧ (∀ c ∈ front, isBlank c = true) ∧
      ∀ c ∈ back, isBlank c = true := by
  refine ⟨cs.takeWhile isBlank, ((dropBlank cs).reverse.takeWhile isBlank).reverse, ?_, ?_, ?_⟩
  · rw [stripBlank, dropBlankEnd, List.append_assoc, ← List.reverse_append, List.takeWhile_append_dropWhile,
      List.reverse_reverse]
    exact List.takeWhile_append_dropWhile.symm
  · exact fun c member => List.mem_takeWhile_imp member
  · exact fun c member => List.mem_takeWhile_imp (List.mem_reverse.mp member)

theorem mem_of_mem_stripBlank {c : Char} {cs : List Char} (member : c ∈ stripBlank cs) : c ∈ cs := by
  obtain ⟨front, back, around, -, -⟩ := exists_around_stripBlank cs
  rw [around]
  exact List.mem_append_left _ (List.mem_append_right _ member)

/-- Trimming brings no characters that are not in the text. -/
theorem mem_of_mem_trim {c : Char} {s : String} (member : c ∈ (trim s).toList) : c ∈ s.toList := by
  rw [toList_trim] at member
  exact mem_of_mem_stripBlank member

/-- Trimming leaves a text alone that neither begins nor ends with a blank. -/
theorem trim_eq_self {s : String} {first last : Char} {front back : List Char}
    (begins : s.toList = first :: back) (solid : isBlank first = false)
    (ends : s.toList = front ++ [last]) (solid' : isBlank last = false) : trim s = s := by
  have start : dropBlank s.toList = s.toList := by
    rw [begins, dropBlank, List.dropWhile_cons, solid]
    rfl
  have final : dropBlankEnd [last] = [last] := by
    rw [dropBlankEnd_cons solid']
    rfl
  rw [trim, stripBlank, start]
  apply String.toList_injective
  rw [String.toList_ofList, ends, dropBlankEnd_append (by rw [final]; exact List.cons_ne_nil _ _), final]

/-! ### The beginning of a text -/

/-- The text begins with a character that is not blank. -/
def BeginsSolid (s : String) : Prop :=
  ∃ first rest, s.toList = first :: rest ∧ isBlank first = false

theorem beginsSolid_iff {s : String} : BeginsSolid s ↔ s.toList.head?.any (!isBlank ·) = true := by
  unfold BeginsSolid
  cases s.toList with
  | nil => simp
  | cons first rest => simp

instance : DecidablePred BeginsSolid := fun _ => decidable_of_iff _ beginsSolid_iff.symm

theorem BeginsSolid.append {front : String} (solid : BeginsSolid front) (back : String) :
    BeginsSolid (front ++ back) := by
  obtain ⟨first, rest, text, filled⟩ := solid
  exact ⟨first, rest ++ back.toList, by rw [String.toList_append, text]; rfl, filled⟩

theorem BeginsSolid.ne_empty {s : String} (solid : BeginsSolid s) : s ≠ "" := by
  rintro rfl
  obtain ⟨first, rest, text, -⟩ := solid
  cases text

/-- Joined words begin as the first of them does. -/
theorem beginsSolid_intercalate {between : String} {words : List String} (filled : words ≠ [])
    (solid : ∀ word ∈ words, BeginsSolid word) (more : List String) :
    BeginsSolid (between.intercalate (words ++ more)) := by
  obtain ⟨first, rest, rfl⟩ := List.exists_cons_of_ne_nil filled
  have begins := solid first List.mem_cons_self
  rw [List.cons_append]
  cases rest ++ more with
  | nil => rwa [String.intercalate_singleton]
  | cons second rest =>
      rw [String.intercalate_cons_cons, String.append_assoc]
      exact begins.append _

/-- The first piece of such a text is not blank. -/
theorem exists_pieces_of_beginsSolid {s : String} (solid : BeginsSolid s) :
    ∃ first rest, pieces s = first :: rest ∧ trimEnd first ≠ "" := by
  obtain ⟨c, cs, text, filled⟩ := solid
  have other : (c == '\n') = false := by
    apply beq_eq_false_iff_ne.mpr
    rintro rfl
    exact absurd filled (by decide)
  -- the first piece begins with the first character, the others are the same whatever stands before it
  obtain ⟨head, tail, parts⟩ := List.exists_cons_of_ne_nil (List.splitOn_ne_nil '\n' cs)
  refine ⟨String.ofList (c :: head), tail.map String.ofList, ?_, ?_⟩
  · rw [pieces, splitText, text, List.splitOn_cons_eq_if_modifyHead, other, parts]
    rfl
  · intro empty
    have characters := congrArg String.toList empty
    rw [toList_trimEnd, String.toList_ofList, dropBlankEnd_cons filled] at characters
    cases characters

end Blueprint.Text
