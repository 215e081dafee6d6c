/-
Module: Blueprint.Proofs.Agreement
Purpose: Generating into a directory of a file tree and generating into memory come to the same. Where names can
  stand in a file tree, each call leads to a name in a directory that is there, so that after every call the
  tree below the directory shows what the calls so far leave behind, just as the memory does; and nothing
  beside the directory changes.
Main exports: HasStorableNames, FileTree.IsBareDirectory, Mirrors, Mirrors.exists_answer,
  generate_into_files
-/
import Blueprint.Proofs.Collection
import Blueprint.Proofs.Output.FileTree

namespace Blueprint

open Output (Call FileTree IsPlain Logged Memory Node PathPart Place Store Target created joinPath parts pathOf
  written?)
open Php (Options)

variable {model : Model} {options : Options} {base id : ElementId} {names : List String} {calls : List Call}
  {call : Call} {makers : List (ElementId × List String)} {start tree : FileTree} {place : Place} {root : String}

/-! ### Names that can be stored -/

/-- A name that a file or directory can have: a plain one without a character that has no code. -/
structure IsStorable (name : String) : Prop extends IsPlain name where
  clean : Char.ofNat 0 ∉ name.toList

/-- No name of an element and no suffix has a slash or a character without a code in it, and no package, nor the
    model, is named by one or two dots. -/
structure HasStorableNames (model : Model) (options : Options) : Prop where
  elements : ∀ id element, model.element? id = some element →
    '/' ∉ element.name.toList ∧ Char.ofNat 0 ∉ element.name.toList
  packages : ∀ id element, model.element? id = some element → element.content.isPackage = true →
    element.name ≠ "." ∧ element.name ≠ ".."
  classSuffix : '/' ∉ options.classSuffix.toList ∧ Char.ofNat 0 ∉ options.classSuffix.toList
  interfaceSuffix : '/' ∉ options.interfaceSuffix.toList ∧ Char.ofNat 0 ∉ options.interfaceSuffix.toList

namespace HasStorableNames

variable (storable : HasStorableNames model options)

include storable

theorem hasPlainFiles : HasPlainFiles model options where
  classifiers id element _ _ found _ := (storable.elements id element found).1
  classSuffix := storable.classSuffix.1
  interfaceSuffix := storable.interfaceSuffix.1

theorem isStorable_package {element : Element} (found : model.element? id = some element)
    (isPackage : element.content.isPackage = true) (named : element.name ≠ "") : IsStorable element.name where
  filled := named
  single := (storable.elements id element found).1
  notHere := (storable.packages id element found isPackage).1
  notUp := (storable.packages id element found isPackage).2
  clean := (storable.elements id element found).2

theorem isStorable_fileName {fileName : String} (called : Php.fileName? model options id = some fileName) :
    IsStorable fileName where
  toIsPlain := storable.hasPlainFiles.isPlain_fileName called
  clean := by
    obtain ⟨stem, rfl, inside⟩ := exists_stem called
    rw [String.toList_append, List.mem_append, not_or]
    refine ⟨fun member => ?_, by decide⟩
    rcases inside _ member with ⟨element, -, -, found, -, inName⟩ | inSuffix | inSuffix
    · exact (storable.elements id element found).2 inName
    · exact storable.classSuffix.2 inSuffix
    · exact storable.interfaceSuffix.2 inSuffix

/-- An element stands in a directory of storable names. -/
theorem isStorable_of_standsIn (stands : model.StandsIn base id names) : ∀ name ∈ names, IsStorable name := by
  intro name member
  obtain ⟨owner, outer, element, -, found, isPackage, named, rfl⟩ := stands.exists_package member
  exact storable.isStorable_package found isPackage named

/-- What is made for an element has a storable name in the directory of the element. -/
theorem exists_path (makes : Makes model options id (pathOf names) call) :
    ∃ name, IsStorable name ∧ call.path = pathOf (names ++ [name]) := by
  cases makes with
  | @directory element found isPackage named =>
      exact ⟨element.name, storable.isStorable_package found isPackage named, (Output.pathOf_concat _ _).symm⟩
  | @file element kind classifier fileName unit found isClassifier named called rendered =>
      exact ⟨fileName, storable.isStorable_fileName called, (Output.pathOf_concat _ _).symm⟩

end HasStorableNames

/-- The parts of a path of storable names are these names. -/
theorem parts_storable (storable : ∀ name ∈ names, IsStorable name) : parts (pathOf names) = names.map .name :=
  Output.parts_pathOf fun name member => (storable name member).toIsPlain

/-- Every call leads to a storable name in a directory of such names that has been created before, unless it is
    the base itself that the call is made for. -/
theorem Arranges.exists_place (arranged : Arranges model options [base] [] makers calls)
    (storable : HasStorableNames model options) {before after : List Call}
    (split : calls = before ++ call :: after) :
    ∃ names name, (∀ other ∈ names ++ [name], IsStorable other) ∧ call.path = pathOf (names ++ [name]) ∧
      (names = [] ∨ created before (names.map .name) = true) := by
  obtain ⟨id, names, member, makes, prepared⟩ := arranged.prepared before call after split
  have inside := storable.isStorable_of_standsIn (arranged.stands_of_mem member)
  obtain ⟨name, last, path⟩ := storable.exists_path makes
  refine ⟨names, name, ?_, path, prepared.imp_right fun earlier => ?_⟩
  · rw [List.forall_mem_append, List.forall_mem_singleton]
    exact ⟨inside, last⟩
  · exact Output.created_eq_true_iff.mpr ⟨_, earlier, parts_storable inside⟩

/-- Where a directory has been created, the directory that it lies in has been created, too. -/
theorem Arranges.created_above (arranged : Arranges model options [base] [] makers calls)
    (storable : HasStorableNames model options) {before after : List Call} (split : calls = before ++ after)
    {name : String} (inside : created before ((names ++ [name]).map .name) = true) :
    (∀ other ∈ names ++ [name], IsStorable other) ∧ (names = [] ∨ created before (names.map .name) = true) := by
  obtain ⟨path, member, same⟩ := Output.created_eq_true_iff.mp inside
  obtain ⟨first, rest, rfl⟩ := List.append_of_mem member
  rw [List.append_assoc, List.cons_append] at split
  obtain ⟨place, last, plain, leads, above⟩ := arranged.exists_place storable split
  have path : path = pathOf (place ++ [last]) := leads
  rw [path, parts_storable plain] at same
  have equal := (List.map_injective_iff.mpr fun _ _ => PathPart.name.inj) same
  obtain ⟨rfl, ⟨⟩⟩ := List.append_inj' equal rfl
  refine ⟨plain, above.imp_right fun earlier => ?_⟩
  obtain ⟨path, member, same⟩ := Output.created_eq_true_iff.mp earlier
  exact Output.created_eq_true_iff.mpr ⟨path, List.mem_append_left _ member, same⟩

/-! ### What calls leave in a file tree -/

/-- What stands where the calls have created a directory or written a file. -/
def nodeAfter (calls : List Call) (key : List PathPart) : Option Node :=
  if created calls key then some .directory else (written? calls key).map fun text => .file text.toUTF8

theorem nodeAfter_createDirectory (calls : List Call) (path : String) (key : List PathPart) :
    nodeAfter (calls ++ [.createDirectory path]) key =
      if parts path = key then some .directory else nodeAfter calls key := by
  rw [nodeAfter, Output.created_concat, Output.written?_concat]
  by_cases here : parts path = key <;> simp [here, Call.creates, Call.text?, nodeAfter]

theorem nodeAfter_writeFile {path : String} (free : created calls (parts path) = false) (text : String)
    (key : List PathPart) :
    nodeAfter (calls ++ [.writeFile path text]) key =
      if parts path = key then some (.file text.toUTF8) else nodeAfter calls key := by
  rw [nodeAfter, Output.created_concat, Output.written?_concat]
  by_cases here : parts path = key
  · subst here
    simp [Call.creates, Call.text?, free]
  · simp [here, Call.creates, Call.text?, nodeAfter]

theorem nodeAfter_eq_directory_iff {key : List PathPart} :
    nodeAfter calls key = some .directory ↔ created calls key = true := by
  rw [nodeAfter]
  split
  · rename_i made
    simp [made]
  · rename_i unmade
    simp [unmade]

theorem nodeAfter_eq_file_iff {key : List PathPart}
    (apart : created calls key = true → written? calls key = none) {content : ByteArray} :
    nodeAfter calls key = some (.file content) ↔
      ∃ text, written? calls key = some text ∧ text.toUTF8 = content := by
  rw [nodeAfter]
  split
  · rename_i made
    simp [apart made]
  · simp

/-- The path leads to a directory with nothing in it, in a tree where names and paths can have any length. -/
structure Output.FileTree.IsBareDirectory (tree : FileTree) (root : String) (place : Place) : Prop where
  clean : Char.ofNat 0 ∉ root.toList
  leads : tree.follow [] (FileTree.piecesOf root) = .ok place
  there : tree.lookup place = some .directory
  bare : ∀ names, names ≠ [] → tree.lookup (place ++ names) = none
  unlimited : tree.limits = {}

/-- Below the place the tree shows what the calls leave behind, and elsewhere what it showed at the start. -/
structure Mirrors (start : FileTree) (place : Place) (tree : FileTree) (calls : List Call) : Prop where
  limits : tree.limits = start.limits
  below : ∀ names, names ≠ [] → tree.lookup (place ++ names) = nodeAfter calls (names.map .name)
  beside : ∀ other, (∀ names, names ≠ [] → other ≠ place ++ names) → tree.lookup other = start.lookup other

namespace Mirrors

variable {before after : List Call}

theorem nil (bare : start.IsBareDirectory root place) : Mirrors start place start [] where
  limits := rfl
  below names filled := bare.bare names filled
  beside _ _ := rfl

/-- A tree that mirrors calls extends the one at the start, where nothing stood below the place. -/
theorem extends_start (mirrors : Mirrors start place tree before) (bare : start.IsBareDirectory root place) :
    start.Extends tree := by
  have outside : ∀ other, (start.lookup other).isSome → tree.lookup other = start.lookup other := by
    intro other found
    apply mirrors.beside
    rintro names filled rfl
    rw [bare.bare names filled] at found
    cases found
  constructor
  · exact mirrors.limits
  · intro other there
    rw [outside other (Option.isSome_of_eq_some there), there]
  · intro other found
    rwa [outside other found]

/-- The names of a directory that the calls have created lead from the place to that directory. -/
theorem follow (mirrors : Mirrors start place tree before) (bare : start.IsBareDirectory root place)
    (arranged : Arranges model options [base] [] makers calls) (storable : HasStorableNames model options)
    (split : calls = before ++ after) (known : names = [] ∨ created before (names.map .name) = true) :
    tree.follow [] (FileTree.piecesOf root ++ names) = .ok (place ++ names) ∧
      tree.lookup (place ++ names) = some .directory := by
  induction names using List.reverseRecOn with
  | nil =>
      have grows := mirrors.extends_start bare
      rw [List.append_nil, List.append_nil]
      exact ⟨grows.follow bare.leads, grows.directories place bare.there⟩
  | append_singleton names name ih =>
      have made : created before ((names ++ [name]).map .name) = true := known.resolve_left (by simp)
      obtain ⟨plain, above⟩ := arranged.created_above storable split made
      obtain ⟨leads, there⟩ := ih above
      have last := (plain name (by simp)).toIsPlain
      have found : tree.lookup (place ++ (names ++ [name])) = some .directory := by
        rw [mirrors.below _ (by simp), nodeAfter, if_pos made]
      rw [← List.append_assoc] at found
      rw [← List.append_assoc, ← List.append_assoc]
      exact ⟨FileTree.follow_concat leads there (mirrors.limits.trans bare.unlimited) last.notHere last.notUp
        (Option.isSome_of_eq_some found), found⟩

/-- The path of a call, seen from the directory, leads to a name in a directory that is there. -/
theorem leadsInto (mirrors : Mirrors start place tree before) (bare : start.IsBareDirectory root place)
    (arranged : Arranges model options [base] [] makers calls) (storable : HasStorableNames model options)
    (split : calls = before ++ after) {name : String} (plain : ∀ other ∈ names ++ [name], IsStorable other)
    (above : names = [] ∨ created before (names.map .name) = true) :
    tree.LeadsInto (joinPath root (pathOf (names ++ [name]))) (place ++ names) name := by
  have level : ∀ other ∈ names ++ [name], IsPlain other := fun other member => (plain other member).toIsPlain
  have last := level name (by simp)
  have relative := (Output.isConfined_pathOf.mpr fun other member => (level other member).isConfined).1
  obtain ⟨leads, there⟩ := mirrors.follow bare arranged storable split above
  refine ⟨?_, ⟨FileTree.piecesOf root ++ names, ?_, leads⟩, there, last.notHere, last.notUp, ?_⟩
  · intro member
    rcases Output.mem_joinPath member with inRoot | inNames | slash
    · exact bare.clean inRoot
    · rcases Output.mem_pathOf inNames with ⟨other, listed, inside⟩ | slash
      · exact (plain other listed).clean inside
      · exact absurd slash (by decide)
    · exact absurd slash (by decide)
  · rw [Output.piecesOf_joinPath root relative, Output.piecesOf_pathOf level, List.append_assoc]
  · have filled : pathOf (names ++ [name]) ≠ "" := by
      intro empty
      have key := Output.parts_pathOf level
      have none : parts "" = [] := rfl
      rw [empty, none] at key
      simp at key
    rw [Output.endsInSlash_joinPath root filled, Output.pathOf_concat, Output.endsInSlash_joinPath _ last.filled,
      last.endsInSlash]

/-- A change below the place that shows what one more call leaves behind. -/
theorem grow (mirrors : Mirrors start place tree before) {next : FileTree} {node : Node} (filled : names ≠ [])
    (limits : next.limits = tree.limits)
    (changes : ∀ other, next.lookup other = if other = place ++ names then some node else tree.lookup other)
    (leaves : ∀ key, nodeAfter (before ++ [call]) key =
      if names.map .name = key then some node else nodeAfter before key) :
    Mirrors start place next (before ++ [call]) where
  limits := limits.trans mirrors.limits
  below others filled' := by
    have same : names.map PathPart.name = others.map PathPart.name ↔ others = names := by
      rw [(List.map_injective_iff.mpr fun _ _ => PathPart.name.inj).eq_iff, eq_comm]
    rw [changes, leaves, mirrors.below others filled']
    simp only [same, List.append_cancel_left_eq]
  beside other outside := by
    rw [changes, if_neg (outside names filled), mirrors.beside other outside]

/-- The next call is accepted, and afterwards the tree mirrors it, too, as long as no directory is created where
    a file is written. -/
theorem exists_answer (mirrors : Mirrors start place tree before) (bare : start.IsBareDirectory root place)
    (arranged : Arranges model options [base] [] makers calls) (storable : HasStorableNames model options)
    (apart : ∀ key, created calls key = true → written? calls key = none)
    (split : calls = before ++ call :: after) :
    ∃ next, (FileTree.store root).answer call tree = (.ok (), next) ∧
      Mirrors start place next (before ++ [call]) := by
  obtain ⟨names, name, plain, path, above⟩ := arranged.exists_place storable split
  have into := mirrors.leadsInto bare arranged storable split plain above
  have unlimited := mirrors.limits.trans bare.unlimited
  have filled : names ++ [name] ≠ [] := by simp
  have key := parts_storable plain
  have shows := mirrors.below _ filled
  rw [← key, ← List.append_assoc] at shows
  cases call with
  | createDirectory path' =>
      obtain rfl : path' = pathOf (names ++ [name]) := path
      have made : created calls (parts (pathOf (names ++ [name]))) = true :=
        Output.created_eq_true_iff.mpr ⟨_, split ▸ List.mem_append_right _ List.mem_cons_self, rfl⟩
      have unwritten := apart _ made
      rw [split, Output.written?_append, Option.or_eq_none_iff] at unwritten
      have free : tree.lookup (place ++ names ++ [name]) = none ∨
          tree.lookup (place ++ names ++ [name]) = some .directory := by
        rw [shows, nodeAfter, unwritten.2]
        split <;> simp
      obtain ⟨next, done, limits, changes⟩ := into.createDirs unlimited free
      rw [List.append_assoc] at changes
      refine ⟨next, by simp [Store.answer, FileTree.store, done], mirrors.grow filled limits changes ?_⟩
      rw [← key]
      exact nodeAfter_createDirectory before _
  | writeFile path' text =>
      obtain rfl : path' = pathOf (names ++ [name]) := path
      have written : (written? calls (parts (pathOf (names ++ [name])))).isSome :=
        Output.written?_isSome.mpr ⟨_, text, split ▸ List.mem_append_right _ List.mem_cons_self, rfl⟩
      have uncreated : created before (parts (pathOf (names ++ [name]))) = false := by
        rw [Bool.eq_false_iff]
        intro made
        rw [apart _ (by rw [split, Output.created_append, made, Bool.true_or])] at written
        cases written
      have free : tree.lookup (place ++ names ++ [name]) ≠ some .directory := by
        rw [shows, nodeAfter, uncreated]
        simp
      obtain ⟨next, done, limits, changes⟩ := into.write unlimited text free
      rw [List.append_assoc] at changes
      refine ⟨next, by simp [Store.answer, FileTree.store, done], mirrors.grow filled limits changes ?_⟩
      rw [← key]
      exact nodeAfter_writeFile uncreated text

end Mirrors

/-- What the calls leave behind lies at names. -/
theorem Arranges.exists_names (arranged : Arranges model options [base] [] makers calls)
    (storable : HasStorableNames model options) (member : call ∈ calls) :
    ∃ names : List String, names ≠ [] ∧ parts call.path = names.map .name := by
  obtain ⟨before, after, split⟩ := List.append_of_mem member
  obtain ⟨names, name, plain, path, -⟩ := arranged.exists_place storable split
  exact ⟨names ++ [name], by simp, by rw [path, parts_storable plain]⟩

/-! ### Models of documents -/

/-- What is generated into memory and what is generated into a directory agree. Let a model be read from a
    document, let `base` be one of its elements, and let all names be storable. If, after generating from
    `base` into an empty memory, no path is both that of a directory and that of a file there, then, for every
    bare directory in a file tree, generating into that directory succeeds as it does in memory, and

    * a directory stands below it where there is a directory in the memory, and nowhere else;
    * a file stands below it where there is a file in the memory, with the same text, and nowhere else;
    * all paths in the memory are paths of names, so none of them is left out;
    * outside of the directory nothing has changed. -/
theorem generate_into_files {stream : Markup.Stream}
    (read : Document.readDocument (Document.Cursor.ofStream stream) = .ok model)
    (known : base < model.nextId) (storable : HasStorableNames model options)
    {outcome : Except Output.OutputError Unit} {memory : Memory} {notices : List Output.Notice}
    (collected : generate (Target.ofStore Memory.store) model options base ⟨.empty, []⟩ =
      (outcome, ⟨memory, notices⟩))
    (apart : ∀ key, memory.directories.containsKey key = true → memory.files.containsKey key = false)
    (bare : start.IsBareDirectory root place) :
    outcome = .ok () ∧ ∃ final log,
      generate (Target.ofStore (FileTree.store root)) model options base ⟨start, []⟩ = (.ok (), ⟨final, log⟩) ∧
      (∀ names, names ≠ [] → (final.lookup (place ++ names) = some .directory ↔
        memory.directories.containsKey (names.map .name) = true)) ∧
      (∀ names, names ≠ [] → ∀ content, (final.lookup (place ++ names) = some (.file content) ↔
        ∃ text, memory.files.findKey? (names.map .name) = some text ∧ text.toUTF8 = content)) ∧
      (∀ key, (memory.directories.containsKey key || memory.files.containsKey key) = true →
        ∃ names : List String, names ≠ [] ∧ key = names.map .name) ∧
      ∀ other, (∀ names, names ≠ [] → other ≠ place ++ names) → final.lookup other = start.lookup other := by
  have tree := (Document.isRecorded_of_readDocument read).isTree
  obtain ⟨makers, calls, arranged, performs⟩ :=
    exists_arrangement tree options (Model.element?_isSome_iff.mpr known)
  obtain ⟨held, performed, holds⟩ := Memory.exists_perform (arranged.housed storable.hasPlainFiles)
  obtain ⟨log, ran⟩ := performs Memory.store ⟨.empty, []⟩
  rw [performed, collected] at ran
  cases ran
  have unwritten : ∀ key, created calls key = true → written? calls key = none := by
    intro key made
    have absent := apart key (by rw [holds.directories, made])
    rwa [Output.PathMap.containsKey_eq, holds.files, Option.isSome_eq_false_iff,
      Option.isNone_iff_eq_none] at absent
  obtain ⟨final, performed, mirrors⟩ := Store.exists_perform_of_steps (Mirrors.nil bare)
    fun before call after reached split mirrors =>
      mirrors.exists_answer bare arranged storable unwritten split
  obtain ⟨log', ran⟩ := performs (FileTree.store root) ⟨start, []⟩
  rw [performed] at ran
  refine ⟨rfl, final, log', ran, ?_, ?_, ?_, mirrors.beside⟩
  · intro names filled
    rw [mirrors.below names filled, nodeAfter_eq_directory_iff, holds.directories]
  · intro names filled content
    rw [mirrors.below names filled, nodeAfter_eq_file_iff (unwritten _), holds.files]
  · intro key kept
    rw [holds.directories, Output.PathMap.containsKey_eq, holds.files, Bool.or_eq_true] at kept
    rcases kept with made | written
    · obtain ⟨path, member, same⟩ := Output.created_eq_true_iff.mp made
      obtain ⟨names, filled, leads⟩ := arranged.exists_names storable member
      exact ⟨names, filled, same.symm.trans leads⟩
    · obtain ⟨path, text, member, same⟩ := Output.written?_isSome.mp written
      obtain ⟨names, filled, leads⟩ := arranged.exists_names storable member
      exact ⟨names, filled, same.symm.trans leads⟩

/-- A file tree with one directory, in which nothing stands yet. -/
def desk : FileTree :=
  FileTree.empty.put ["out"] .directory

theorem desk_bare : desk.IsBareDirectory "out" ["out"] where
  clean := by decide
  leads := by decide +kernel
  there := by rw [desk, FileTree.lookup_put _ (by decide), if_pos rfl]
  bare names filled := by
    have below : ["out"] ++ names ≠ ["out"] := by simpa using filled
    rw [desk, FileTree.lookup_put _ (by decide), if_neg below]
    simp [FileTree.lookup, FileTree.empty]
  unlimited := rfl

/-- The class and the interface of one name come to one file in the directory, too. -/
theorem generate_into_files_twins : ∃ final log,
    Document.readDocument (Document.Cursor.ofStream (Markup.Stream.ofText twinText)) = .ok twins ∧
      desk.IsBareDirectory "out" ["out"] ∧
      generate (Target.ofStore (FileTree.store "out")) twins {} Model.root ⟨desk, []⟩ = (.ok (), ⟨final, log⟩) ∧
      final.lookup ["out", "m"] = some .directory ∧
      (∃ content, final.lookup ["out", "m", "A.php"] = some (.file content)) ∧ final.lookup ["m"] = none := by
  have storable : HasStorableNames twins {} := by
    have all : ∀ element ∈ twins.elements, ('/' ∉ element.name.toList ∧ Char.ofNat 0 ∉ element.name.toList) ∧
        element.name ≠ "." ∧ element.name ≠ ".." := by decide
    exact ⟨fun id element found => (all element (Array.mem_of_getElem? found)).1,
      fun id element found _ => (all element (Array.mem_of_getElem? found)).2, by decide, by decide⟩
  rcases collected : generate (Target.ofStore Memory.store) twins {} Model.root ⟨.empty, []⟩ with
    ⟨outcome, memory, notices⟩
  have keys : memory.directories.entries.map Output.PathEntry.key = [[.name "m"]] ∧
      memory.files.entries.map Output.PathEntry.key = [[.name "m", .name "A.php"]] := by
    have run : memory = (generate (Target.ofStore Memory.store) twins {} Model.root ⟨.empty, []⟩).2.state := by
      rw [collected]
    rw [run]
    decide +kernel
  have apart : ∀ key, memory.directories.containsKey key = true → memory.files.containsKey key = false := by
    intro key made
    rw [Output.PathMap.containsKey_iff, keys.1, List.mem_singleton] at made
    rw [Bool.eq_false_iff, ne_eq, Output.PathMap.containsKey_iff, keys.2, made]
    decide
  have known : Model.root < twins.nextId := by decide
  obtain ⟨-, final, log, ran, directories, files, -, beside⟩ :=
    generate_into_files twins_read known storable collected apart desk_bare
  refine ⟨final, log, twins_read, desk_bare, ran, ?_, ?_, ?_⟩
  · refine (directories ["m"] (by decide)).mpr ?_
    rw [Output.PathMap.containsKey_iff, keys.1]
    decide
  · have kept : memory.files.containsKey (["m", "A.php"].map .name) = true := by
      rw [Output.PathMap.containsKey_iff, keys.2]
      decide
    rw [Output.PathMap.containsKey_eq] at kept
    obtain ⟨text, found⟩ := Option.isSome_iff_exists.mp kept
    exact ⟨_, (files ["m", "A.php"] (by decide) _).mpr ⟨text, found, rfl⟩⟩
  · rw [beside ["m"] (by simp), desk, FileTree.lookup_put _ (by decide), if_neg (by decide)]
    rfl

end Blueprint
