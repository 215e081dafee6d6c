/-
Module: Blueprint.Proofs.Collection
Purpose: What generating into memory leaves there. Where file names are plain, every file lies in the directory
  that has been created for the package that owns its classifier, so that no file is refused. The memory
  then holds the directories of all named packages that stand below the base, and the files of all named
  classifiers there; where several files have one path, the classifier that the walk meets last has its
  unit kept.
Main exports: HasPlainFiles, Arranges.housed, Arranges.written?_iff,
  generate_into_memory
-/
import Blueprint.Proofs.Document.Containment
import Blueprint.Proofs.Layout
import Blueprint.Proofs.Output.Memory

namespace Blueprint

open Output (Call IsPlain Logged Memory PathPart Store Target joinPath parentParts? parts pathOf)
open Php (Options)

variable {model : Model} {options : Options} {base id : ElementId} {calls : List Call}
  {makers : List (ElementId × List String)}

/-- No name of a classifier and no suffix of file names has a slash in it. -/
structure HasPlainFiles (model : Model) (options : Options) : Prop where
  classifiers : ∀ id element kind classifier, model.element? id = some element →
    element.content = .classifier kind classifier → '/' ∉ element.name.toList
  classSuffix : '/' ∉ options.classSuffix.toList
  interfaceSuffix : '/' ∉ options.interfaceSuffix.toList

/-! ### Directories of files -/

/-- What ends like a source file is neither empty nor made of dots only. -/
theorem isPlain_source {stem : String} (single : '/' ∉ stem.toList) : IsPlain (stem ++ ".php") where
  filled same := by simp at same
  single := by simpa using single
  notHere same := by
    have lengths := congrArg (fun text => text.toList.length) same
    simp at lengths
  notUp same := by
    have lengths := congrArg (fun text => text.toList.length) same
    simp at lengths

/-- A file name is the name of its classifier, a suffix and the ending of source files. -/
theorem exists_stem {fileName : String} (called : Php.fileName? model options id = some fileName) :
    ∃ stem, fileName = stem ++ ".php" ∧ ∀ char ∈ stem.toList,
      (∃ element kind classifier, model.element? id = some element ∧
        element.content = .classifier kind classifier ∧ char ∈ element.name.toList) ∨
      char ∈ options.classSuffix.toList ∨ char ∈ options.interfaceSuffix.toList := by
  cases found : model.element? id with
  | none => simp [Php.fileName?, found] at called
  | some element =>
      rw [Php.fileName?, found] at called
      split at called
      · cases called
      · rename_i same
        cases same
        obtain ⟨kind, known, rfl⟩ := Option.map_eq_some_iff.mp (Option.ite_none_left_eq_some.mp called).2
        obtain ⟨classifier, content⟩ := Model.exists_classifier_of_kind? known
        refine ⟨_, rfl, ?_⟩
        intro char member
        rw [String.toList_append, List.mem_append] at member
        rcases member with inName | inSuffix
        · exact .inl ⟨element, kind, classifier, rfl, content, inName⟩
        · cases kind with
          | classType => exact .inr (.inl inSuffix)
          | interface => exact .inr (.inr inSuffix)
          | enumeration | annotationType => simp at inSuffix

theorem HasPlainFiles.isPlain_fileName (plain : HasPlainFiles model options) {fileName : String}
    (called : Php.fileName? model options id = some fileName) : IsPlain fileName := by
  obtain ⟨stem, rfl, inside⟩ := exists_stem called
  apply isPlain_source
  intro slash
  rcases inside _ slash with ⟨element, kind, classifier, found, content, inName⟩ | inSuffix | inSuffix
  · exact plain.classifiers id element kind classifier found content inName
  · exact plain.classSuffix inSuffix
  · exact plain.interfaceSuffix inSuffix

/-- A file with a plain name lies in the directory that it is put into. -/
theorem Makes.parentParts? {directory path text : String} (plain : HasPlainFiles model options)
    (makes : Makes model options id directory (.writeFile path text)) :
    Output.parentParts? path = some (parts directory) := by
  cases makes with
  | file found isClassifier named called rendered =>
      exact Output.parentParts?_joinPath_plain directory (plain.isPlain_fileName called)

/-- Every file lies in no directory or in one that has been created before. -/
theorem Arranges.housed (arranged : Arranges model options [base] [] makers calls)
    (plain : HasPlainFiles model options) (before : List Call) (path text : String) (after : List Call)
    (split : calls = before ++ .writeFile path text :: after) (parent : List PathPart)
    (lies : parentParts? path = some parent) : parent = [] ∨ Output.created before parent = true := by
  obtain ⟨id, place, -, makes, prepared⟩ := arranged.prepared before _ after split
  obtain rfl := Option.some.inj (lies.symm.trans (makes.parentParts? plain))
  rcases prepared with rfl | earlier
  · exact .inl rfl
  · exact .inr (List.any_eq_true.mpr ⟨_, earlier, beq_self_eq_true _⟩)

/-! ### The order of files -/

section Order

variable {α β : Type}

/-- Around an entry of a part of a list, the list has the part before it and the part after it. -/
theorem exists_split_of_sublist {front back whole : List α} {item : α}
    (kept : (front ++ item :: back).Sublist whole) :
    ∃ before after, whole = before ++ item :: after ∧ front.Sublist before ∧ back.Sublist after := by
  obtain ⟨first, second, rfl, earlier, later⟩ := List.append_sublist_iff.mp kept
  obtain ⟨between, last, rfl, member, behind⟩ := List.cons_sublist_iff.mp later
  obtain ⟨near, far, rfl⟩ := List.append_of_mem member
  refine ⟨first ++ near, far ++ last, ?_, ?_, ?_⟩
  · simp only [List.append_assoc, List.cons_append]
  · exact earlier.trans (List.sublist_append_left first near)
  · exact behind.trans (List.sublist_append_right far last)

/-- Related lists are cut at the same place, from the second one. -/
theorem exists_split_of_forall₂ {relates : α → β → Prop} {items : List α} {before after : List β} {result : β}
    (related : List.Forall₂ relates items (before ++ result :: after)) :
    ∃ front item back, items = front ++ item :: back ∧ List.Forall₂ relates front before ∧
      relates item result ∧ List.Forall₂ relates back after := by
  induction before generalizing items with
  | nil =>
      cases related with
      | cons here later => exact ⟨[], _, _, rfl, .nil, here, later⟩
  | cons first before ih =>
      cases related with
      | cons here later =>
          obtain ⟨front, item, back, rfl, earlier, related, behind⟩ := ih later
          exact ⟨_ :: front, item, back, rfl, .cons here earlier, related, behind⟩

/-- Two entries of a list of which neither stands behind the other are the same. -/
theorem eq_of_split {before after before' after' : List α} {item other : α}
    (split : before ++ item :: after = before' ++ other :: after') (notBehind : item ∉ after')
    (notBehind' : other ∉ after) : item = other := by
  rcases List.append_eq_append_iff.mp split with ⟨between, rfl, rest⟩ | ⟨between, rfl, rest⟩
  · cases between with
    | nil => exact (List.cons.inj rest).1
    | cons first between =>
        refine absurd ?_ notBehind'
        rw [(List.cons.inj rest).2]
        exact List.mem_append_right _ List.mem_cons_self
  · cases between with
    | nil => exact (List.cons.inj rest).1.symm
    | cons first between =>
        refine absurd ?_ notBehind
        rw [(List.cons.inj rest).2]
        exact List.mem_append_right _ List.mem_cons_self

end Order

/-- The unit of a classifier does not depend on the directory that it is put into. -/
theorem MakesBelow.text_eq {path other text text' : String}
    (first : MakesBelow model options base id (.writeFile path text))
    (second : MakesBelow model options base id (.writeFile other text')) : text = text' := by
  obtain ⟨names, -, makes⟩ := first
  obtain ⟨names', -, makes'⟩ := second
  cases makes with
  | file _ _ _ _ rendered =>
      cases makes' with
      | file _ _ _ _ rendered' =>
          obtain rfl := Option.some.inj (rendered.symm.trans rendered')
          rfl

namespace Arranges

variable (arranged : Arranges model options [base] [] makers calls)

include arranged

/-- The calls before and after one are made for elements that the walk meets before and after the one that
    it is made for. -/
theorem exists_split {before after : List Call} {call : Call} (split : calls = before ++ call :: after) :
    ∃ front id names back earlier later, makers = front ++ (id, names) :: back ∧
      Makes model options id (pathOf names) call ∧
      List.Forall₂ (fun maker call => Makes model options maker.1 (pathOf maker.2) call) back after ∧
      model.walk base = earlier ++ id :: later ∧ (front.map Prod.fst).Sublist earlier ∧
      (back.map Prod.fst).Sublist later := by
  obtain ⟨front, ⟨id, names⟩, back, rfl, -, makes, behind⟩ := exists_split_of_forall₂ (split ▸ arranged.makes)
  have order := arranged.order
  rw [List.map_append, List.map_cons, List.flatMap_singleton] at order
  obtain ⟨earlier, later, met, inFront, inBack⟩ := exists_split_of_sublist order
  exact ⟨front, id, names, back, earlier, later, rfl, makes, behind, met, inFront, inBack⟩

/-- The text that is written last to a file is written for an element after which the walk meets none for which
    that file is written. -/
theorem exists_last (tree : model.IsTree) {key : List PathPart} {text : String}
    (written : Output.written? calls key = some text) :
    ∃ before id after path, model.walk base = before ++ id :: after ∧
      MakesBelow model options base id (.writeFile path text) ∧ parts path = key ∧
      ∀ later ∈ after, ∀ path text, MakesBelow model options base later (.writeFile path text) →
        parts path ≠ key := by
  obtain ⟨before, path, after, split, same, last⟩ := Output.written?_eq_some_iff.mp written
  obtain ⟨front, id, names, back, earlier, later, together, makes, behind, met, inFront, -⟩ :=
    arranged.exists_split split
  have maker : (id, names) ∈ makers := together ▸ List.mem_append_right _ List.mem_cons_self
  refine ⟨earlier, id, later, path, met, ⟨names, arranged.stands_of_mem maker, makes⟩, same, ?_⟩
  rintro other listed path' text' ⟨place, stands, makes'⟩ again
  have distinct := tree.nodup_walk base
  rw [met, List.nodup_middle, List.nodup_cons, List.nodup_append] at distinct
  obtain ⟨once, -, -, apart⟩ := distinct
  have among := arranged.mem_makers stands makes'
  rw [together] at among
  -- What the walk meets later is not among the makers in front, so its call is one of the later calls.
  rcases List.mem_append.mp among with early | late
  · exact apart other (inFront.subset (List.mem_map_of_mem early)) other listed rfl
  · rcases List.mem_cons.mp late with here | late
    · obtain ⟨rfl, -⟩ := Prod.mk.inj here
      exact once (List.mem_append_right _ listed)
    · obtain ⟨call, member, made⟩ := exists_right_of_forall₂ behind late
      have writes := last call member
      rw [← makes'.unique made, Call.text?, if_pos again] at writes
      cases writes

theorem written?_iff (tree : model.IsTree) {key : List PathPart} {text : String} :
    Output.written? calls key = some text ↔
      ∃ before id after path, model.walk base = before ++ id :: after ∧
        MakesBelow model options base id (.writeFile path text) ∧ parts path = key ∧
        ∀ later ∈ after, ∀ path text, MakesBelow model options base later (.writeFile path text) →
          parts path ≠ key := by
  constructor
  · exact arranged.exists_last tree
  · rintro ⟨before, id, after, path, met, makes, same, last⟩
    have writes : (Output.written? calls key).isSome :=
      Output.written?_isSome.mpr ⟨path, text, arranged.mem_calls_iff.mpr ⟨id, makes⟩, same⟩
    obtain ⟨text', written⟩ := Option.isSome_iff_exists.mp writes
    obtain ⟨before', id', after', path', met', makes', same', last'⟩ := arranged.exists_last tree written
    obtain rfl : id = id' := eq_of_split (met.symm.trans met')
      (fun member => last' id member path text makes same) fun member => last id' member path' text' makes' same'
    rw [written, makes'.text_eq makes]

end Arranges

/-! ### Models of documents -/

/-- What generating into memory leaves there. Let a model be read from a document, let `base` be one of its
    elements, and let no name of a classifier and no suffix have a slash in it. Generating from `base` into an
    empty memory succeeds. Paths are told apart by their parts, and

    * the directories in the memory are those of the named packages that stand below `base`;
    * the files in it are those of the named classifiers that stand there;
    * the text of a file is the unit of the classifier that the walk meets last of all those whose files
      have that path. -/
theorem generate_into_memory {stream : Markup.Stream}
    (read : Document.readDocument (Document.Cursor.ofStream stream) = .ok model)
    (known : base < model.nextId) (plain : HasPlainFiles model options) :
    ∃ memory notices,
      generate (Target.ofStore Memory.store) model options base ⟨.empty, []⟩ = (.ok (), ⟨memory, notices⟩) ∧
      memory.directories.IsOrdered ∧ memory.files.IsOrdered ∧
      (∀ key, memory.directories.containsKey key = true ↔
        ∃ id path, MakesBelow model options base id (.createDirectory path) ∧ parts path = key) ∧
      (∀ key, memory.files.containsKey key = true ↔
        ∃ id path text, MakesBelow model options base id (.writeFile path text) ∧ parts path = key) ∧
      ∀ key text, memory.files.findKey? key = some text ↔
        ∃ before id after path, model.walk base = before ++ id :: after ∧
          MakesBelow model options base id (.writeFile path text) ∧ parts path = key ∧
          ∀ later ∈ after, ∀ path text, MakesBelow model options base later (.writeFile path text) →
            parts path ≠ key := by
  have tree := (Document.isRecorded_of_readDocument read).isTree
  obtain ⟨makers, calls, arranged, performs⟩ :=
    exists_arrangement tree options (Model.element?_isSome_iff.mpr known)
  obtain ⟨memory, performed, holds⟩ := Memory.exists_perform (arranged.housed plain)
  obtain ⟨notices, ran⟩ := performs Memory.store ⟨.empty, []⟩
  rw [performed] at ran
  refine ⟨memory, notices, ran, holds.directories_ordered, holds.files_ordered, ?_, ?_, ?_⟩
  · intro key
    rw [holds.directories, Output.created_eq_true_iff]
    constructor
    · rintro ⟨path, member, same⟩
      obtain ⟨id, makes⟩ := arranged.mem_calls_iff.mp member
      exact ⟨id, path, makes, same⟩
    · rintro ⟨id, path, makes, same⟩
      exact ⟨path, arranged.mem_calls_iff.mpr ⟨id, makes⟩, same⟩
  · intro key
    rw [Output.PathMap.containsKey_eq, holds.files, Output.written?_isSome]
    constructor
    · rintro ⟨path, text, member, same⟩
      obtain ⟨id, makes⟩ := arranged.mem_calls_iff.mp member
      exact ⟨id, path, text, makes, same⟩
    · rintro ⟨id, path, text, makes, same⟩
      exact ⟨path, text, arranged.mem_calls_iff.mpr ⟨id, makes⟩, same⟩
  · intro key text
    rw [holds.files]
    exact arranged.written?_iff tree

/-- A document with a class and an interface of one name. -/
def twinText : String :=
  "<model name='m'><class name='A'/><interface name='A'/></model>"

/-- The model of that document. -/
def twins : Model where
  author? := none
  elements := #[
    { id := 0, name := "m", parent? := none, owned := [1, 2], content := .model },
    { id := 1, name := "A", parent? := some 0, content := .classifier .classType {} },
    { id := 2, name := "A", parent? := some 0, content := .classifier .interface {} }]
  relationships := []
  keys := []

theorem twins_read :
    Document.readDocument (Document.Cursor.ofStream (Markup.Stream.ofText twinText)) = .ok twins :=
  Document.eq_ok_of_toOption (by decide +kernel)

/-- The class and the interface have one file, and the unit of the interface is what it holds. -/
theorem generate_into_memory_twins : ∃ unit memory notices,
    Document.readDocument (Document.Cursor.ofStream (Markup.Stream.ofText twinText)) = .ok twins ∧
      HasPlainFiles twins {} ∧ Php.unitOf? twins {} 2 = some unit ∧
      generate (Target.ofStore Memory.store) twins {} Model.root ⟨.empty, []⟩ = (.ok (), ⟨memory, notices⟩) ∧
      memory.files.findKey? [.name "m", .name "A.php"] = some unit.finish := by
  have plain : HasPlainFiles twins {} := by
    refine ⟨fun id element kind classifier found _ => ?_, by decide, by decide⟩
    have all : ∀ element ∈ twins.elements, '/' ∉ element.name.toList := by decide
    exact all element (Array.mem_of_getElem? found)
  obtain ⟨-, unit, rendered⟩ := @exists_file twins {} 2 twins.elements[2] .interface {} rfl rfl (by decide)
  have root : twins.element? Model.root = some twins.elements[0] := rfl
  have interface : twins.element? 2 = some twins.elements[2] := rfl
  have made : MakesBelow twins {} Model.root 2 (.writeFile (joinPath (pathOf ["m"]) "A.php") unit.finish) :=
    ⟨["m"], .inside root rfl (by decide) (show 2 ∈ [1, 2] by decide) .itself,
      .file interface rfl (by decide) rfl rendered⟩
  have known : Model.root < twins.nextId := by decide
  obtain ⟨memory, notices, ran, -, -, -, -, files⟩ := generate_into_memory twins_read known plain
  refine ⟨unit, memory, notices, twins_read, plain, rendered, ran, ?_⟩
  rw [files]
  exact ⟨[0, 1], 2, [], _, by decide, made, by decide +kernel, fun _ later => nomatch later⟩

end Blueprint
