/-
Module: Blueprint.Proofs.Output.FileTree
Purpose: Places in a file tree. A path is followed step by step, so pieces one after the other lead where the
  later ones lead from the place that the first ones lead to; and pieces that never go upwards lead to a
  place in or below the one where they begin. A path that leads to a name in a directory creates a directory
  under that name or writes a file under it, unless a file or a directory stands in the way, and changes
  nothing else.
Main exports: FileTree.step, FileTree.follow_append, FileTree.step_eq_ok_iff, FileTree.prefix_of_follow,
  FileTree.Extends.follow, FileTree.lookup_put, FileTree.LeadsInto.createDirs, FileTree.LeadsInto.write
-/
import Blueprint.Output.FileTree

namespace Blueprint.Output.FileTree

variable {tree : FileTree} {place next : Place} {piece : String} {pieces rest : List String}

/-! ### Following pieces -/

/-- The place that a single piece leads to from a place. -/
def step (tree : FileTree) (place : Place) (piece : String) : Except FileError Place := do
  tree.expectDirectory place
  if piece == "." then return place
  else if piece == ".." then return place.dropLast
  else
    tree.checkName piece
    if (tree.lookup (place ++ [piece])).isSome then return place ++ [piece] else .error .notFound

theorem follow_cons (tree : FileTree) (place : Place) (piece : String) (rest : List String) :
    tree.follow place (piece :: rest) = tree.step place piece >>= fun next => tree.follow next rest := by
  rw [follow, step]
  cases tree.expectDirectory place with
  | error fault => rfl
  | ok _ =>
      cases here : piece == "." with
      | true => rfl
      | false =>
          cases up : piece == ".." with
          | true => rfl
          | false =>
              cases tree.checkName piece with
              | error fault => rfl
              | ok _ => cases (tree.lookup (place ++ [piece])).isSome <;> rfl

/-- Following pieces is taking one step after the other. -/
theorem follow_eq_foldlM (tree : FileTree) (place : Place) (pieces : List String) :
    tree.follow place pieces = pieces.foldlM tree.step place := by
  induction pieces generalizing place with
  | nil => rfl
  | cons piece rest ih =>
      rw [follow_cons, List.foldlM_cons]
      exact congrArg (tree.step place piece >>= ·) (funext ih)

theorem follow_append (tree : FileTree) (place : Place) (pieces rest : List String) :
    tree.follow place (pieces ++ rest) =
      tree.follow place pieces >>= fun next => tree.follow next rest := by
  simp only [follow_eq_foldlM, List.foldlM_append]

theorem expectDirectory_eq_ok_iff {done : Unit} :
    tree.expectDirectory place = .ok done ↔ tree.lookup place = some .directory := by
  rw [expectDirectory]
  split <;> simp [*]

/-- A step can be taken from a directory: a dot stays there, two dots go up, and a name that is not too long
    goes down to something that is there. -/
theorem step_eq_ok_iff :
    tree.step place piece = .ok next ↔ tree.lookup place = some .directory ∧
      (piece = "." ∧ next = place ∨ piece = ".." ∧ next = place.dropLast ∨
        (piece ≠ "." ∧ piece ≠ "..") ∧ fits tree.limits.name? piece = true ∧
          (tree.lookup (place ++ [piece])).isSome ∧ next = place ++ [piece]) := by
  rw [step, ← @expectDirectory_eq_ok_iff tree place ()]
  cases tree.expectDirectory place with
  | error fault => simp [bind, Except.bind]
  | ok done =>
      by_cases here : piece = "."
      · simp [here, bind, Except.bind, pure, Except.pure, @eq_comm _ next]
      · by_cases up : piece = ".."
        · simp [up, bind, Except.bind, pure, Except.pure, @eq_comm _ next]
        · rw [checkName]
          by_cases short : fits tree.limits.name? piece = true
          · by_cases found : (tree.lookup (place ++ [piece])).isSome = true
            · simp [here, up, short, found, bind, Except.bind, pure, Except.pure, @eq_comm _ next]
            · simp [here, up, short, found, bind, Except.bind]
          · simp [here, up, short, bind, Except.bind]

theorem follow_cons_eq_ok_iff :
    tree.follow place (piece :: rest) = .ok next ↔
      ∃ between, tree.step place piece = .ok between ∧ tree.follow between rest = .ok next := by
  rw [follow_cons]
  cases tree.step place piece <;> simp [bind, Except.bind]

/-- Pieces that never go upwards lead to a place in or below the one where they begin. -/
theorem prefix_of_follow (leads : tree.follow place pieces = .ok next) (level : ".." ∉ pieces) :
    place <+: next := by
  induction pieces generalizing place with
  | nil =>
      cases leads
      exact List.prefix_refl _
  | cons piece rest ih =>
      rw [List.mem_cons, not_or] at level
      obtain ⟨between, steps, leads⟩ := follow_cons_eq_ok_iff.mp leads
      have behind : between <+: next := ih leads level.2
      rcases (step_eq_ok_iff.mp steps).2 with ⟨-, rfl⟩ | ⟨up, -⟩ | ⟨-, -, -, rfl⟩
      · exact behind
      · exact absurd up.symm level.1
      · exact (List.prefix_append place [piece]).trans behind

/-- The tree has become another one in which there is something wherever there was something before, and a
    directory wherever there was a directory. -/
structure Extends (tree grown : FileTree) : Prop where
  limits : grown.limits = tree.limits
  directories : ∀ place, tree.lookup place = some .directory → grown.lookup place = some .directory
  present : ∀ place, (tree.lookup place).isSome → (grown.lookup place).isSome

/-- Pieces lead to the same place after the tree has been extended. -/
theorem Extends.follow {grown : FileTree} (extends_ : tree.Extends grown)
    (leads : tree.follow place pieces = .ok next) : grown.follow place pieces = .ok next := by
  induction pieces generalizing place with
  | nil => exact leads
  | cons piece rest ih =>
      obtain ⟨between, steps, leads⟩ := follow_cons_eq_ok_iff.mp leads
      obtain ⟨there, way⟩ := step_eq_ok_iff.mp steps
      refine follow_cons_eq_ok_iff.mpr ⟨between, step_eq_ok_iff.mpr ⟨extends_.directories _ there, ?_⟩, ih leads⟩
      rw [extends_.limits]
      exact way.imp_right (.imp_right fun ⟨plain, short, found, same⟩ =>
        ⟨plain, short, extends_.present _ found, same⟩)

/-- A name leads from a directory to what stands there under that name. -/
theorem follow_concat (leads : tree.follow place pieces = .ok next) (there : tree.lookup next = some .directory)
    (unlimited : tree.limits = {}) (notHere : piece ≠ ".") (notUp : piece ≠ "..")
    (found : (tree.lookup (next ++ [piece])).isSome) :
    tree.follow place (pieces ++ [piece]) = .ok (next ++ [piece]) := by
  have steps : tree.step next piece = .ok (next ++ [piece]) :=
    step_eq_ok_iff.mpr ⟨there, .inr (.inr ⟨⟨notHere, notUp⟩, by rw [unlimited]; rfl, found, rfl⟩)⟩
  rw [follow_append, leads]
  exact follow_cons_eq_ok_iff.mpr ⟨_, steps, rfl⟩

/-! ### What stands where -/

theorem lookup_cons_eq_ite (first : Place × Node) (rest : List (Place × Node)) (other : Place) :
    (first :: rest).lookup other = if other = first.1 then some first.2 else rest.lookup other := by
  rw [List.lookup_cons]
  by_cases here : other = first.1
  · rw [if_pos here, beq_iff_eq.mpr here]
  · rw [if_neg here, beq_eq_false_iff_ne.mpr here]

theorem lookup_replaceNode (place : Place) (node : Node) (nodes : List (Place × Node)) (other : Place) :
    (replaceNode place node nodes).lookup other = if other = place then some node else nodes.lookup other := by
  induction nodes with
  | nil => exact lookup_cons_eq_ite (place, node) [] other
  | cons first rest ih =>
      obtain ⟨taken, old⟩ := first
      rw [replaceNode]
      by_cases same : taken = place
      · rw [if_pos same, lookup_cons_eq_ite, lookup_cons_eq_ite, same]
        by_cases here : other = place <;> simp [here]
      · rw [if_neg same, lookup_cons_eq_ite, lookup_cons_eq_ite, ih]
        by_cases here : other = taken
        · rw [if_pos here, here, if_neg same, if_pos rfl]
        · rw [if_neg here, if_neg here]

/-- What is put at a place stands there, and nothing else changes. -/
theorem lookup_put (tree : FileTree) (filled : place ≠ []) (node : Node) (other : Place) :
    (tree.put place node).lookup other = if other = place then some node else tree.lookup other := by
  rw [lookup, lookup, put]
  by_cases top : other = []
  · subst top
    rw [if_neg filled.symm]
    rfl
  · have inside : other.isEmpty = false := by simpa using top
    rw [inside, if_neg Bool.false_ne_true, if_neg Bool.false_ne_true]
    exact lookup_replaceNode place node tree.nodes other

theorem hasDirectory_iff : tree.hasDirectory place = true ↔ tree.lookup place = some .directory := by
  rw [hasDirectory]
  split
  · rename_i found
    simp [found]
  · rename_i other
    simpa using other

theorem checkName_of_unlimited (unlimited : tree.limits = {}) (name : String) : tree.checkName name = .ok () := by
  rw [checkName, unlimited]
  rfl

/-! ### Creating and writing in a directory -/

/-- The path leads to a directory, and from there to a name in it. -/
structure LeadsInto (tree : FileTree) (path : String) (parent : Place) (name : String) : Prop where
  clean : Char.ofNat 0 ∉ path.toList
  leads : ∃ before, piecesOf path = before ++ [name] ∧ tree.follow [] before = .ok parent
  there : tree.lookup parent = some .directory
  notHere : name ≠ "."
  notUp : name ≠ ".."
  unslashed : endsInSlash path = false

section LeadsInto

variable {path name : String} {parent : Place} (into : tree.LeadsInto path parent name)
  (unlimited : tree.limits = {})

include into

theorem LeadsInto.getLast? : (piecesOf path).getLast? = some name := by
  obtain ⟨before, pieces, -⟩ := into.leads
  rw [pieces, List.getLast?_concat]

theorem LeadsInto.parentOf : tree.parentOf (piecesOf path) = .ok parent := by
  obtain ⟨before, pieces, leads⟩ := into.leads
  have enters : tree.expectDirectory parent = .ok () := expectDirectory_eq_ok_iff.mpr into.there
  simp [FileTree.parentOf, pieces, leads, enters, bind, Except.bind, pure, Except.pure]

theorem LeadsInto.isRelative : isRelative name = false := by
  simp [FileTree.isRelative, into.notHere, into.notUp]

include unlimited

theorem LeadsInto.checkPath : tree.checkPath path = .ok () := by
  rw [FileTree.checkPath, if_neg (by simpa using into.clean), unlimited]
  rfl

theorem LeadsInto.createDir : tree.createDir (piecesOf path) =
    if (tree.lookup (parent ++ [name])).isSome then .error .alreadyExists
    else .ok (tree.put (parent ++ [name]) .directory) := by
  simp [FileTree.createDir, into.getLast?, into.parentOf, into.isRelative, checkName_of_unlimited unlimited, bind,
    Except.bind]

/-- A directory is created where nothing stands but perhaps a directory already. -/
theorem LeadsInto.createDirs
    (free : tree.lookup (parent ++ [name]) = none ∨ tree.lookup (parent ++ [name]) = some .directory) :
    ∃ next, tree.createDirs path = (.ok (), next) ∧ next.limits = tree.limits ∧
      ∀ other, next.lookup other = if other = parent ++ [name] then some .directory else tree.lookup other := by
  obtain ⟨before, pieces, leads⟩ := into.leads
  have filled : (piecesOf path).isEmpty = false := by simp [pieces]
  rw [FileTree.createDirs, into.checkPath unlimited]
  simp only [filled, Bool.false_eq_true, if_false]
  rw [createChain, into.createDir unlimited]
  rcases free with absent | present
  · refine ⟨tree.put (parent ++ [name]) .directory, by simp [absent], rfl, ?_⟩
    exact lookup_put tree (by simp) .directory
  · have reached : tree.isDirectory (piecesOf path) = true := by
      rw [isDirectory, pieces,
        follow_concat leads into.there unlimited into.notHere into.notUp (by rw [present]; rfl)]
      exact hasDirectory_iff.mpr present
    refine ⟨tree, by simp [present, reached], rfl, ?_⟩
    intro other
    split
    · rename_i here
      rw [here, present]
    · rfl

/-- A file is written where no directory stands. -/
theorem LeadsInto.write (text : String) (free : tree.lookup (parent ++ [name]) ≠ some .directory) :
    ∃ next, tree.write path text = .ok next ∧ next.limits = tree.limits ∧
      ∀ other, next.lookup other =
        if other = parent ++ [name] then some (.file text.toUTF8) else tree.lookup other := by
  have absent : tree.hasDirectory (parent ++ [name]) = false := by
    rw [← Bool.not_eq_true, hasDirectory_iff]
    exact free
  refine ⟨tree.put (parent ++ [name]) (.file text.toUTF8), ?_, rfl, lookup_put tree (by simp) _⟩
  simp [FileTree.write, into.checkPath unlimited, into.getLast?, into.parentOf, into.unslashed, into.isRelative,
    checkName_of_unlimited unlimited, absent, bind, Except.bind]

end LeadsInto

end Blueprint.Output.FileTree
