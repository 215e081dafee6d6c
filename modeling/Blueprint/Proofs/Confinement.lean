/-
Module: Blueprint.Proofs.Confinement
Purpose: Whether what is generated stays below the directory that it is generated into. The paths that are asked
  for are put together from the names of packages and of files just as the model and the options give them.
  Such a path stays below every root if each of these names is relative and leads nowhere upwards; a single
  name that is absolute or leads upwards makes a path that is absolute or leads upwards, too.
Main exports: Model.entryName?, StaysBelow, staysBelow_of_isConfined, generated_paths_confined_iff
-/
import Blueprint.Proofs.Document.Containment
import Blueprint.Proofs.Layout
import Blueprint.Proofs.Output.FileTree
import Blueprint.Workspace

namespace Blueprint

open Output (Call FileTree IsConfined PathPart Performs Store Target joinPath parts pathOf)
open Php (Options)

variable {model : Model} {options : Options} {base id : ElementId} {names : List String} {directory name : String}

/-- The name of the directory or file that is made for an element. -/
def Model.entryName? (model : Model) (options : Options) (id : ElementId) : Option String :=
  match model.element? id with
  | none => none
  | some element =>
    if element.content.isPackage then (if element.name.isEmpty then none else some element.name)
    else Php.fileName? model options id

/-- Joined to any root, the path leads to the root or below it: its parts are those of the root and then nothing
    but names, and wherever it leads in a file tree, the root leads there or to a place above. -/
structure StaysBelow (root path : String) : Prop where
  parts : root ≠ "" → ∃ names : List String, parts (joinPath root path) = parts root ++ names.map .name
  places : ∀ (tree : FileTree) place,
    tree.follow [] (FileTree.piecesOf (joinPath root path)) = .ok place →
      ∃ top, tree.follow [] (FileTree.piecesOf root) = .ok top ∧ top <+: place

/-- A confined path stays below every root. -/
theorem staysBelow_of_isConfined {path : String} (confined : IsConfined path) (root : String) :
    StaysBelow root path where
  parts := Output.exists_names_of_isConfined confined
  places tree place leads := by
    have level : ".." ∉ FileTree.piecesOf path := fun member =>
      Output.up_mem_parts.not.mp confined.2 (List.mem_of_mem_filter member)
    rw [Output.piecesOf_joinPath root confined.1, FileTree.follow_append] at leads
    cases above : tree.follow [] (FileTree.piecesOf root) with
    | error fault =>
        rw [above] at leads
        cases leads
    | ok top =>
        rw [above] at leads
        exact ⟨top, rfl, FileTree.prefix_of_follow leads level⟩

/-! ### Names in paths -/

/-- The path of a call ends in the name of what is made. -/
theorem Makes.entryName? {call : Call} (makes : Makes model options id directory call) :
    ∃ name, model.entryName? options id = some name ∧ call.path = joinPath directory name := by
  cases makes with
  | @directory element found isPackage named =>
      have filled : element.name.isEmpty = false := by simpa using named
      exact ⟨element.name, by simp [Model.entryName?, found, isPackage, filled], rfl⟩
  | @file element kind classifier fileName unit found isClassifier named called rendered =>
      refine ⟨fileName, ?_, rfl⟩
      simp [Model.entryName?, found, isClassifier, Content.isPackage, called]

/-- What has such a name is made, in whatever directory. -/
theorem exists_makes (known : model.entryName? options id = some name) (directory : String) :
    ∃ call, Makes model options id directory call ∧ call.path = joinPath directory name := by
  have present : (model.element? id).isSome := by
    cases found : model.element? id with
    | none => simp [Model.entryName?, found] at known
    | some element => rfl
  rcases makes_or_nothing model options directory present with ⟨call, makes⟩ | silent
  · obtain ⟨other, same, path⟩ := makes.entryName?
    obtain rfl := Option.some.inj (same.symm.trans known)
    exact ⟨call, makes, path⟩
  · cases silent with
    | useCase found isUseCase =>
        simp [Model.entryName?, Php.fileName?, found, isUseCase, Content.isPackage, Content.kind?] at known
    | unnamed found nameless => simp [Model.entryName?, Php.fileName?, found, nameless] at known

/-- The names of the packages that lead to an element are names of what is made below the base, too. -/
theorem exists_of_mem_names (options : Options) (stands : model.StandsIn base id names)
    (member : name ∈ names) :
    ∃ owner outer, model.StandsIn base owner outer ∧ model.entryName? options owner = some name := by
  obtain ⟨owner, outer, element, above, found, isPackage, named, rfl⟩ := stands.exists_package member
  have filled : element.name.isEmpty = false := by simpa using named
  exact ⟨owner, outer, above, by simp [Model.entryName?, found, isPackage, filled]⟩

/-! ### Models of documents -/

/-- The paths of what is generated. Let a model be read from a document, and let `base` be one of its elements.
    Whatever the store, generating from `base` performs calls from one list.

    * The paths of these calls are those of the elements that stand below `base`: the names of the packages
      that lead to the element, and then the name of the directory or file that is made for it.
    * Such a path is confined if and only if all these names are; and a confined path stays below every
      root that it is joined to.
    * So all paths are confined if and only if no directory or file that is made below `base` has a name that
      is absolute or leads upwards. -/
theorem generated_paths_confined_iff {stream : Markup.Stream}
    (read : Document.readDocument (Document.Cursor.ofStream stream) = .ok model)
    (known : base < model.nextId) (options : Options) :
    ∃ calls : List Call,
      (∀ {σ : Type} (store : Store σ),
        Performs store (generate (Target.ofStore store) model options base) calls) ∧
      (∀ path, (∃ call ∈ calls, call.path = path) ↔ ∃ id names name,
        model.StandsIn base id names ∧ model.entryName? options id = some name ∧
          path = pathOf (names ++ [name])) ∧
      (∀ names, IsConfined (pathOf names) ↔ ∀ name ∈ names, IsConfined name) ∧
      (∀ call ∈ calls, IsConfined call.path → ∀ root, StaysBelow root call.path) ∧
      ((∀ call ∈ calls, IsConfined call.path) ↔ ∀ id names name,
        model.StandsIn base id names → model.entryName? options id = some name → IsConfined name) := by
  have tree := (Document.isRecorded_of_readDocument read).isTree
  obtain ⟨makers, calls, arranged, performs⟩ :=
    exists_arrangement tree options (Model.element?_isSome_iff.mpr known)
  have paths : ∀ path, (∃ call ∈ calls, call.path = path) ↔ ∃ id names name,
      model.StandsIn base id names ∧ model.entryName? options id = some name ∧
        path = pathOf (names ++ [name]) := by
    intro path
    constructor
    · rintro ⟨call, member, rfl⟩
      obtain ⟨id, names, stands, makes⟩ := arranged.mem_calls_iff.mp member
      obtain ⟨name, named, ends⟩ := makes.entryName?
      exact ⟨id, names, name, stands, named, by rw [Output.pathOf_concat, ends]⟩
    · rintro ⟨id, names, name, stands, named, rfl⟩
      obtain ⟨call, makes, ends⟩ := exists_makes named (pathOf names)
      exact ⟨call, arranged.mem_calls_iff.mpr ⟨id, names, stands, makes⟩, by rw [Output.pathOf_concat, ends]⟩
  refine ⟨calls, performs, paths, fun _ => Output.isConfined_pathOf,
    fun call _ => staysBelow_of_isConfined, ?_, ?_⟩
  · intro confined id names name stands named
    obtain ⟨call, member, path⟩ := (paths _).mpr ⟨id, names, name, stands, named, rfl⟩
    have whole := confined call member
    rw [path, Output.isConfined_pathOf] at whole
    exact whole name (List.mem_append_right _ (List.mem_singleton_self name))
  · intro confined call member
    obtain ⟨id, names, name, stands, named, path⟩ := (paths call.path).mp ⟨call, member, rfl⟩
    rw [path, Output.isConfined_pathOf, List.forall_mem_append, List.forall_mem_singleton]
    refine ⟨?_, confined id names name stands named⟩
    intro part inside
    obtain ⟨owner, outer, above, known⟩ := exists_of_mem_names options stands inside
    exact confined owner outer part above known

/-- A document whose model is named like the directory above, with one class. -/
def climbingText : String :=
  "<model name='..'><class name='A'/></model>"

theorem climbing_read : ∃ model,
    Document.readDocument (Document.Cursor.ofStream (Markup.Stream.ofText climbingText)) = .ok model ∧
      model.nextId = 2 ∧ model.entryName? {} Model.root = some ".." ∧
      model.entryName? {} 1 = some "A.php" ∧ model.owned 1 = [] := by
  have parts : (Document.readDocument
        (Document.Cursor.ofStream (Markup.Stream.ofText climbingText))).toOption.map (fun model =>
        (model.nextId, model.entryName? {} Model.root, model.entryName? {} 1, model.owned 1)) =
      some (2, some "..", some "A.php", []) := by
    decide +kernel
  obtain ⟨model, read, parts⟩ := Option.map_eq_some_iff.mp parts
  simp only [Prod.mk.injEq] at parts
  exact ⟨model, Document.eq_ok_of_toOption read, parts⟩

/-- Generating the whole document asks for a directory that is not confined; generating its class alone asks
    for confined paths only. -/
theorem generated_paths_of_climbing : ∃ model,
    Document.readDocument (Document.Cursor.ofStream (Markup.Stream.ofText climbingText)) = .ok model ∧
      (∃ calls : List Call,
        (∀ {σ : Type} (store : Store σ),
          Performs store (generate (Target.ofStore store) model {} Model.root) calls) ∧
        ∃ call ∈ calls, call.path = ".." ∧ ¬IsConfined call.path) ∧
      ∃ calls : List Call,
        (∀ {σ : Type} (store : Store σ),
          Performs store (generate (Target.ofStore store) model {} 1) calls) ∧
        (∃ call ∈ calls, call.path = "A.php") ∧ ∀ call ∈ calls, ∀ root, StaysBelow root call.path := by
  obtain ⟨model, read, size, climbs, stays, leaf⟩ := climbing_read
  have known : ∀ id < 2, id < model.nextId := by
    intro id small
    rw [size]
    exact small
  refine ⟨model, read, ?_, ?_⟩
  · obtain ⟨calls, performs, paths, -, -, -⟩ := generated_paths_confined_iff read (known Model.root (by decide)) {}
    obtain ⟨call, member, path⟩ := (paths "..").mpr ⟨_, [], "..", .itself, climbs, by decide +kernel⟩
    refine ⟨calls, performs, call, member, path, ?_⟩
    rw [path]
    decide +kernel
  · obtain ⟨calls, performs, paths, -, below, confined⟩ :=
      generated_paths_confined_iff read (known 1 (by decide)) {}
    have all : ∀ call ∈ calls, IsConfined call.path := by
      apply confined.mpr
      intro id names name stands named
      cases stands with
      | itself =>
          obtain rfl := Option.some.inj (named.symm.trans stays)
          decide +kernel
      | inside _ _ _ listed _ =>
          rw [leaf] at listed
          cases listed
    refine ⟨calls, performs, ?_, fun call member => below call member (all call member)⟩
    exact (paths "A.php").mpr ⟨_, [], "A.php", .itself, stays, by decide +kernel⟩

/-- Generated below `out`, the class comes to lie beside it. -/
example :
    let tree := (FileTree.empty.put ["out"] .directory).put ["model.xml"] (.file climbingText.toUTF8)
    let run := (generateFrom Workspace.ofTree "model.xml" "out" {}).run.run ⟨tree, []⟩
    (run.2.state.lookup ["A.php"]).isSome = true := by
  decide +kernel

end Blueprint
