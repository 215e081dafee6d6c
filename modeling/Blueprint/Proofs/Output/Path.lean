/-
Module: Blueprint.Proofs.Output.Path
Purpose: Paths put together from names. A relative path that is joined to another adds its pieces to those of
  the other one; an absolute path takes the place of the other. So a joined path is confined, that is, it is
  relative and leads nowhere upwards, if and only if both paths are; and a path put together from plain names
  has just these names as its parts.
Main exports: pathOf, parts_joinPath, piecesOf_joinPath, IsConfined, isConfined_joinPath, isConfined_pathOf,
  exists_names_of_isConfined, IsPlain, parts_joinPath_plain, parentParts?_joinPath_plain, parts_pathOf
-/
import Blueprint.Output.FileTree
import Blueprint.Output.Path
import Blueprint.Proofs.Text.Lines

namespace Blueprint.Output

open Text (splitText)

variable {base path name : String} {names : List String}

/-- The path of names, each one in the directory of those before it. -/
def pathOf (names : List String) : String :=
  names.foldl joinPath ""

@[simp]
theorem pathOf_nil : pathOf [] = "" := rfl

theorem pathOf_concat (names : List String) (name : String) :
    pathOf (names ++ [name]) = joinPath (pathOf names) name := by
  rw [pathOf, List.foldl_append]
  rfl

/-! ### Pieces of joined paths -/

theorem exists_pieces (path : String) : ∃ first rest, splitText '/' path = first :: rest := by
  apply List.exists_cons_of_ne_nil
  rw [splitText, ne_eq, List.map_eq_nil_iff]
  exact List.splitOn_ne_nil _ _

theorem joinPath_absolute (base : String) (absolute : isAbsolute path = true) : joinPath base path = path := by
  rw [joinPath, absolute, Bool.true_or, if_pos rfl]

theorem joinPath_empty (path : String) : joinPath "" path = path := by
  have empty : "".isEmpty = true := rfl
  rw [joinPath, empty, Bool.or_true, if_pos rfl]

/-- The pieces of a joined path are those of the first path and then those of the second, where an empty
    piece at the end of the first is lost. -/
theorem splitText_joinPath (relative : isAbsolute path = false) (filled : base ≠ "") :
    ∃ pieces, splitText '/' (joinPath base path) = pieces ++ splitText '/' path ∧ pieces ≠ [] ∧
      (splitText '/' base = pieces ∨ splitText '/' base = pieces ++ [""]) := by
  have joins : (isAbsolute path || base.isEmpty) = false := by simpa [relative] using filled
  rw [joinPath, joins, if_neg Bool.false_ne_true]
  split
  · rename_i ends
    obtain ⟨front, shape⟩ := List.getLast?_eq_some_iff.mp (beq_iff_eq.mp ends)
    have cut : base = String.ofList front ++ String.ofList ['/'] := by
      rw [← String.ofList_append, ← shape, String.ofList_toList]
    obtain ⟨first, rest, pieces⟩ := exists_pieces (String.ofList front)
    refine ⟨splitText '/' (String.ofList front), ?_, ?_, .inr ?_⟩
    · rw [cut, Text.splitText_append_separator]
    · rw [pieces]
      exact List.cons_ne_nil _ _
    · have whole := Text.splitText_append_separator '/' (String.ofList front) ""
      rwa [String.append_empty, ← cut] at whole
  · obtain ⟨first, rest, pieces⟩ := exists_pieces base
    refine ⟨splitText '/' base, Text.splitText_append_separator '/' base path, ?_, .inl rfl⟩
    rw [pieces]
    exact List.cons_ne_nil _ _

/-! ### Parts of joined paths -/

theorem innerParts_append (front back : List String) :
    innerParts (front ++ back) = innerParts front ++ innerParts back :=
  List.filterMap_append

/-- The pieces with a slash between each two are the path. -/
theorem intercalate_splitText (path : String) :
    List.intercalate ['/'] ((splitText '/' path).map String.toList) = path.toList := by
  have pieces : (splitText '/' path).map String.toList = path.toList.splitOn '/' := by
    simp [splitText, Function.comp_def]
  rw [pieces, List.intercalate_splitOn]

/-- What the first piece of a path adds to its parts. -/
def firstParts (first : String) : List PathPart :=
  if first = "" then [.root] else if first = "." then [.here] else innerParts [first]

/-- The parts of a path that is not empty are those of its first piece and of the others. -/
theorem parts_eq {first : String} {rest : List String} (filled : path ≠ "")
    (cut : splitText '/' path = first :: rest) : parts path = firstParts first ++ innerParts rest := by
  unfold parts
  rw [cut]
  split
  · rename_i same
    cases same
    have inside : rest ≠ [] := by
      rintro rfl
      have whole := intercalate_splitText path
      rw [cut] at whole
      exact filled (String.toList_eq_nil_iff.mp whole.symm)
    rw [firstParts, if_pos rfl, List.isEmpty_eq_false_iff.mpr inside]
    rfl
  · rename_i same
    cases same
    rfl
  · rename_i named notHere
    have before : first ≠ "" := fun same => named rest (by rw [same])
    have other : first ≠ "." := fun same => notHere rest (by rw [same])
    rw [firstParts, if_neg before, if_neg other, ← innerParts_append]
    rfl

/-- A path that something is joined to does not become empty. -/
theorem joinPath_ne_empty (relative : isAbsolute path = false) (filled : base ≠ "") :
    joinPath base path ≠ "" := by
  have joins : (isAbsolute path || base.isEmpty) = false := by simpa [relative] using filled
  rw [joinPath, joins, if_neg Bool.false_ne_true]
  split <;> simp [filled]

/-- A relative path adds its pieces to the parts of the path that it is joined to. -/
theorem parts_joinPath (relative : isAbsolute path = false) (filled : base ≠ "") :
    parts (joinPath base path) = parts base ++ innerParts (splitText '/' path) := by
  obtain ⟨pieces, joined, some, before⟩ := splitText_joinPath relative filled
  obtain ⟨first, rest, rfl⟩ := List.exists_cons_of_ne_nil some
  have front : parts base = firstParts first ++ innerParts rest := by
    rcases before with cut | cut
    · exact parts_eq filled cut
    · have empty : innerParts [""] = [] := rfl
      rw [List.cons_append] at cut
      rw [parts_eq filled cut, innerParts_append, empty, List.append_nil]
  rw [List.cons_append] at joined
  rw [parts_eq (joinPath_ne_empty relative filled) joined, front, List.append_assoc, ← innerParts_append]

/-- The pieces that lead along a joined path lead along the first path and then along the second. -/
theorem piecesOf_joinPath (base : String) (relative : isAbsolute path = false) :
    FileTree.piecesOf (joinPath base path) = FileTree.piecesOf base ++ FileTree.piecesOf path := by
  by_cases filled : base = ""
  · subst filled
    rw [joinPath_empty]
    rfl
  · obtain ⟨pieces, joined, -, before⟩ := splitText_joinPath relative filled
    rw [FileTree.piecesOf, joined, List.filter_append]
    rcases before with cut | cut <;> simp [FileTree.piecesOf, cut]

/-! ### Confined paths -/

/-- The path is relative and no part of it leads upwards. -/
def IsConfined (path : String) : Prop :=
  isAbsolute path = false ∧ .up ∉ parts path

instance (path : String) : Decidable (IsConfined path) :=
  inferInstanceAs (Decidable (_ ∧ _))

theorem up_mem_innerParts {pieces : List String} : .up ∈ innerParts pieces ↔ ".." ∈ pieces := by
  rw [innerParts, List.mem_filterMap]
  constructor
  · rintro ⟨piece, member, stands⟩
    split at stands
    · cases stands
    · split at stands
      · rename_i same
        rwa [beq_iff_eq.mp same] at member
      · cases stands
  · intro member
    exact ⟨"..", member, rfl⟩

/-- A part of a path leads upwards if and only if one of its pieces is two dots. -/
theorem up_mem_parts : .up ∈ parts path ↔ ".." ∈ splitText '/' path := by
  by_cases filled : path = ""
  · subst filled
    decide
  · obtain ⟨first, rest, cut⟩ := exists_pieces path
    have begins : .up ∈ firstParts first ↔ ".." = first := by
      rw [firstParts]
      split
      · rename_i empty
        simp [empty]
      · split
        · rename_i here
          simp [here]
        · rw [up_mem_innerParts, List.mem_singleton]
    rw [parts_eq filled cut, cut, List.mem_append, List.mem_cons, up_mem_innerParts, begins]

theorem isConfined_empty : IsConfined "" := by
  decide

theorem isAbsolute_joinPath (relative : isAbsolute path = false) (filled : base ≠ "") :
    isAbsolute (joinPath base path) = isAbsolute base := by
  have joins : (isAbsolute path || base.isEmpty) = false := by simpa [relative] using filled
  obtain ⟨first, rest, shape⟩ := List.exists_cons_of_ne_nil (String.toList_eq_nil_iff.not.mpr filled)
  rw [joinPath, joins, if_neg Bool.false_ne_true]
  split <;> simp [isAbsolute, shape]

/-- A joined path is confined if and only if both of its paths are. -/
theorem isConfined_joinPath : IsConfined (joinPath base path) ↔ IsConfined base ∧ IsConfined path := by
  cases absolute : isAbsolute path with
  | true =>
      have outside : ¬IsConfined path := fun confined => Bool.false_ne_true (confined.1.symm.trans absolute)
      rw [joinPath_absolute base absolute]
      exact ⟨fun confined => absurd confined outside, fun both => both.2⟩
  | false =>
      by_cases filled : base = ""
      · subst filled
        rw [joinPath_empty]
        exact ⟨fun confined => ⟨isConfined_empty, confined⟩, fun both => both.2⟩
      · obtain ⟨pieces, joined, -, before⟩ := splitText_joinPath absolute filled
        have upwards : ".." ∈ splitText '/' base ↔ ".." ∈ pieces := by
          rcases before with cut | cut <;> simp [cut]
        rw [IsConfined, IsConfined, IsConfined, isAbsolute_joinPath absolute filled, up_mem_parts, up_mem_parts,
          up_mem_parts, joined, upwards, List.mem_append, not_or]
        simp only [absolute, true_and, and_assoc]

/-- A path of names is confined if and only if every name is. -/
theorem isConfined_pathOf : IsConfined (pathOf names) ↔ ∀ name ∈ names, IsConfined name := by
  induction names using List.reverseRecOn with
  | nil => simp [isConfined_empty]
  | append_singleton names name ih =>
      rw [pathOf_concat, isConfined_joinPath, ih, List.forall_mem_append, List.forall_mem_singleton]

/-- Joined to another path, a confined one adds nothing but names to its parts. -/
theorem exists_names_of_isConfined (confined : IsConfined path) (filled : base ≠ "") :
    ∃ names : List String, parts (joinPath base path) = parts base ++ names.map .name := by
  have inside : ∀ pieces : List String, ".." ∉ pieces →
      ∃ names : List String, innerParts pieces = names.map .name := by
    intro pieces level
    induction pieces with
    | nil => exact ⟨[], rfl⟩
    | cons piece rest ih =>
        rw [List.mem_cons, not_or] at level
        obtain ⟨names, later⟩ := ih level.2
        by_cases skipped : piece = "" ∨ piece = "."
        · exact ⟨names, by rcases skipped with rfl | rfl <;> exact later⟩
        · rw [not_or] at skipped
          refine ⟨piece :: names, ?_⟩
          rw [← List.singleton_append, innerParts_append, later]
          simp [innerParts, skipped, Ne.symm level.1]
  obtain ⟨names, shape⟩ := inside (splitText '/' path) (up_mem_parts.not.mp confined.2)
  exact ⟨names, by rw [parts_joinPath confined.1 filled, shape]⟩

/-! ### Plain names -/

/-- The name of a place in a directory: no path of several pieces, and neither the directory itself nor the one
    that it lies in. -/
structure IsPlain (name : String) : Prop where
  filled : name ≠ ""
  single : '/' ∉ name.toList
  notHere : name ≠ "."
  notUp : name ≠ ".."

theorem IsPlain.splitText (plain : IsPlain name) : splitText '/' name = [name] :=
  Text.splitText_of_not_mem plain.single

theorem IsPlain.relative (plain : IsPlain name) : isAbsolute name = false := by
  rw [isAbsolute, beq_eq_false_iff_ne]
  exact fun first => plain.single (List.mem_of_head? first)

theorem IsPlain.innerParts (plain : IsPlain name) : innerParts [name] = [.name name] := by
  simp [Output.innerParts, plain.filled, plain.notHere, plain.notUp]

theorem IsPlain.parts (plain : IsPlain name) : parts name = [.name name] := by
  rw [parts_eq plain.filled plain.splitText, firstParts, if_neg plain.filled, if_neg plain.notHere,
    plain.innerParts]
  rfl

/-- A plain name is one more part of the path that it is joined to. -/
theorem parts_joinPath_plain (base : String) (plain : IsPlain name) :
    parts (joinPath base name) = parts base ++ [.name name] := by
  by_cases filled : base = ""
  · subst filled
    rw [joinPath_empty, plain.parts]
    rfl
  · rw [parts_joinPath plain.relative filled, plain.splitText, plain.innerParts]

/-- The path that a plain name is joined to is the one that the result lies in. -/
theorem parentParts?_joinPath_plain (base : String) (plain : IsPlain name) :
    parentParts? (joinPath base name) = some (parts base) := by
  simp [parentParts?, parts_joinPath_plain base plain]

/-- The parts of a path of plain names are these names. -/
theorem parts_pathOf (plain : ∀ name ∈ names, IsPlain name) : parts (pathOf names) = names.map .name := by
  induction names using List.reverseRecOn with
  | nil => rfl
  | append_singleton names name ih =>
      rw [List.forall_mem_append, List.forall_mem_singleton] at plain
      rw [pathOf_concat, parts_joinPath_plain _ plain.2, ih plain.1, List.map_append, List.map_singleton]

theorem IsPlain.isConfined (plain : IsPlain name) : IsConfined name :=
  ⟨plain.relative, by simp [plain.parts]⟩

theorem IsPlain.piecesOf (plain : IsPlain name) : FileTree.piecesOf name = [name] := by
  simp [FileTree.piecesOf, plain.splitText, plain.filled]

/-- A path of plain names leads along these names. -/
theorem piecesOf_pathOf (plain : ∀ name ∈ names, IsPlain name) : FileTree.piecesOf (pathOf names) = names := by
  induction names using List.reverseRecOn with
  | nil => rfl
  | append_singleton names name ih =>
      rw [List.forall_mem_append, List.forall_mem_singleton] at plain
      rw [pathOf_concat, piecesOf_joinPath _ plain.2.relative, ih plain.1, plain.2.piecesOf]

/-! ### Characters of joined paths -/

/-- A joined path is its second path, with something before it. -/
theorem exists_joinPath_eq_append (base path : String) :
    ∃ before, joinPath base path = before ++ path ∧ ∀ char ∈ before.toList, char ∈ base.toList ∨ char = '/' := by
  rw [joinPath]
  split
  · exact ⟨"", (String.empty_append).symm, by simp⟩
  · split
    · exact ⟨base, rfl, fun _ => .inl⟩
    · refine ⟨base ++ "/", rfl, ?_⟩
      simp

/-- A character of a joined path is one of its paths, or the slash between them. -/
theorem mem_joinPath {char : Char} (member : char ∈ (joinPath base path).toList) :
    char ∈ base.toList ∨ char ∈ path.toList ∨ char = '/' := by
  obtain ⟨before, joined, fromBase⟩ := exists_joinPath_eq_append base path
  rw [joined, String.toList_append, List.mem_append] at member
  rcases member with first | second
  · exact (fromBase char first).imp_right .inr
  · exact .inr (.inl second)

theorem mem_pathOf {char : Char} (member : char ∈ (pathOf names).toList) :
    (∃ name ∈ names, char ∈ name.toList) ∨ char = '/' := by
  induction names using List.reverseRecOn with
  | nil => simp at member
  | append_singleton names name ih =>
      rw [pathOf_concat] at member
      rcases mem_joinPath member with first | second | slash
      · exact (ih first).imp_left fun ⟨other, earlier, inside⟩ => ⟨other, List.mem_append_left _ earlier, inside⟩
      · exact .inl ⟨name, List.mem_append_right _ (List.mem_singleton_self name), second⟩
      · exact .inr slash

/-- A joined path ends in a slash if and only if its second path does. -/
theorem endsInSlash_joinPath (base : String) (filled : path ≠ "") :
    FileTree.endsInSlash (joinPath base path) = FileTree.endsInSlash path := by
  obtain ⟨before, joined, -⟩ := exists_joinPath_eq_append base path
  rw [joined, FileTree.endsInSlash, FileTree.endsInSlash, String.toList_append,
    List.getLast?_append_of_ne_nil _ (String.toList_eq_nil_iff.not.mpr filled)]

theorem IsPlain.endsInSlash (plain : IsPlain name) : FileTree.endsInSlash name = false := by
  rw [FileTree.endsInSlash, beq_eq_false_iff_ne]
  exact fun last => plain.single (List.mem_of_getLast? last)

end Blueprint.Output
