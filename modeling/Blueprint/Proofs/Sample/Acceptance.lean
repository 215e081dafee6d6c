/-
Module: Blueprint.Proofs.Sample.Acceptance
Purpose: Samples of every shape are accepted from the text to the files. The model that the text is read to has the
  elements, the relationships and the attributes that the shape asks for, and keeps all structural rules. Generating
  from it creates a directory for the model and for each package, and writes a file for each interface and each class;
  no two of them have one path.
Main exports: Sample.validate_model, Sample.plans, Sample.fileNames, sample_is_accepted
-/
import Blueprint.Proofs.Collection
import Blueprint.Proofs.Sample.Model
import Blueprint.Proofs.Validation
import Blueprint.Workspace

namespace Blueprint

open Output (Call IsPlain Memory Performs Target joinPath parts pathOf)
open Php (Options)

namespace Sample

open Document

variable {shape : SampleShape}

/-! ### Finding elements -/

theorem isRecorded_model (shape : SampleShape) : (model shape).IsRecorded :=
  isRecorded_of_readDocument (ofDocument_eq_model shape)

/-- An element stands at the place that its identity tells. -/
theorem element?_of_mem {element : Element} (member : element ∈ elements shape) :
    (model shape).element? element.id = some element := by
  obtain ⟨place, found⟩ := List.mem_iff_getElem?.mp member
  have known : (model shape).element? place = some element := by
    simpa [Model.element?, model] using found
  rwa [(isRecorded_model shape).identity place element known]

theorem mem_elements_of_package {package : Nat} (inside : package < shape.packages) {element : Element}
    (member : element ∈ packageElements shape package) : element ∈ elements shape :=
  List.mem_cons_of_mem _ (List.mem_flatMap.mpr ⟨package, List.mem_range.mpr inside, member⟩)

theorem element?_root : (model shape).element? Model.root = some (rootElement shape) :=
  element?_of_mem List.mem_cons_self

theorem element?_package {package : Nat} (inside : package < shape.packages) :
    (model shape).element? (packageId shape package) = some (packageElement shape package) :=
  element?_of_mem (mem_elements_of_package inside List.mem_cons_self)

theorem element?_service {package : Nat} (inside : package < shape.packages) :
    (model shape).element? (serviceId shape package) = some (serviceElement shape package) :=
  element?_of_mem (mem_elements_of_package inside (List.mem_cons_of_mem _ List.mem_cons_self))

theorem element?_entity {package index : Nat} (inside : package < shape.packages) (within : index < shape.classes) :
    (model shape).element? (entityId shape package index) = some (entityElement shape package index) :=
  element?_of_mem (mem_elements_of_package inside (List.mem_cons_of_mem _ (List.mem_cons_of_mem _
    (List.mem_map.mpr ⟨index, List.mem_range.mpr within, rfl⟩))))

theorem mem_elements_of_element? {id : ElementId} {element : Element}
    (found : (model shape).element? id = some element) : element ∈ elements shape := by
  rw [Model.element?, model, List.getElem?_toArray] at found
  exact List.mem_of_getElem? found

/-- Every element is the model itself, a package, an interface or a class. -/
theorem mem_elements_cases {element : Element} (member : element ∈ elements shape) :
    element = rootElement shape ∨ ∃ package < shape.packages, element = packageElement shape package ∨
      element = serviceElement shape package ∨
        ∃ index < shape.classes, element = entityElement shape package index := by
  rcases List.mem_cons.mp member with rfl | member
  · exact .inl rfl
  · obtain ⟨package, inside, member⟩ := List.mem_flatMap.mp member
    refine .inr ⟨package, List.mem_range.mp inside, ?_⟩
    rcases List.mem_cons.mp member with rfl | member
    · exact .inl rfl
    rcases List.mem_cons.mp member with rfl | member
    · exact .inr (.inl rfl)
    obtain ⟨index, within, rfl⟩ := List.mem_map.mp member
    exact .inr (.inr ⟨index, List.mem_range.mp within, rfl⟩)

theorem size_elements : (model shape).elements.size = 1 + shape.packages * (2 + shape.classes) := by
  have each : ∀ package, (packageElements shape package).length = 2 + shape.classes := by
    intro package
    simp [packageElements]
    omega
  simp [model, elements, List.length_flatMap, each]
  omega

/-! ### Validity -/

/-- The classifiers are interfaces with one operation and classes with the attributes of their package. -/
theorem classifier_cases {id : ElementId} {classifier : Classifier}
    (known : (model shape).classifier? id = some classifier) : classifier = { operations := [run] } ∨
      ∃ package, classifier = { stereotype? := some "countable", attributes := members shape package } := by
  obtain ⟨element, found, content⟩ := Option.bind_eq_some_iff.mp known
  rcases mem_elements_cases (mem_elements_of_element? found) with rfl | ⟨package, -, rfl | rfl | ⟨index, -, rfl⟩⟩
  · cases content
  · cases content
  · exact .inl (Option.some.inj content).symm
  · exact .inr ⟨package, (Option.some.inj content).symm⟩

/-- A multiplicity that is not given is well-formed. -/
theorem isWellFormed_absent : Multiplicity.IsWellFormed ⟨""⟩ := by
  decide +kernel

/-- No attribute has a multiplicity. -/
theorem multiplicity_of_mem_members {package : Nat} {member : Attribute} (declared : member ∈ members shape package) :
    member.multiplicity = ⟨""⟩ := by
  rcases List.mem_append.mp declared with listed | peer
  · obtain ⟨index, -, rfl⟩ := List.mem_map.mp listed
    rfl
  · cases package with
    | zero => cases peer
    | succ before =>
        obtain rfl := List.mem_singleton.mp peer
        rfl

theorem isValid_model (shape : SampleShape) : (model shape).IsValid where
  attributes id classifier known member declared := by
    rcases classifier_cases known with rfl | ⟨package, rfl⟩
    · cases declared
    · rw [multiplicity_of_mem_members declared]
      exact isWellFormed_absent
  results id classifier known operation declared := by
    rcases classifier_cases known with rfl | ⟨package, rfl⟩
    · obtain rfl := List.mem_singleton.mp declared
      decide
    · cases declared
  parameters id classifier known operation declared parameter passed := by
    rcases classifier_cases known with rfl | ⟨package, rfl⟩
    · obtain rfl := List.mem_singleton.mp declared
      obtain rfl := List.mem_singleton.mp passed
      exact isWellFormed_absent
    · cases declared
  relationships relationship listed := by
    obtain ⟨⟨package, index⟩, pair, rfl⟩ := List.mem_map.mp listed
    obtain ⟨inside, within⟩ := List.mem_product.mp pair
    rw [List.mem_range] at inside within
    constructor
    · rw [Model.classifier?, element?_entity inside within]
      rfl
    · rw [Model.isInterface, element?_service inside]
      rfl

theorem validate_model (shape : SampleShape) : (model shape).validate = .ok () := by
  rw [validate_eq_forM, forM_check_eq_ok_iff, ← isValid_iff_rules]
  exact isValid_model shape

/-! ### Files -/

/-- The text of the file of a classifier. -/
def textOf (shape : SampleShape) (id : ElementId) : String :=
  ((Php.unitOf? (model shape) {} id).map Php.SourceUnit.finish).getD ""

/-- The directory of a package, as names. -/
def packagePlace (package : Nat) : List String :=
  ["Bench", "Pkg" ++ toString package]

/-- The names of the files of a package. -/
def packageFiles (shape : SampleShape) (package : Nat) : List (String × ElementId) :=
  ("Service" ++ toString package ++ ".php", serviceId shape package) ::
    (List.range shape.classes).map fun index => ("Entity" ++ toString index ++ ".php", entityId shape package index)

/-- The calls for a package: its directory, and the files in it. -/
def packageCalls (shape : SampleShape) (package : Nat) : List Call :=
  .createDirectory (pathOf (packagePlace package)) ::
    (packageFiles shape package).map fun (fileName, id) =>
      .writeFile (pathOf (packagePlace package ++ [fileName])) (textOf shape id)

/-- The calls for a sample. -/
def calls (shape : SampleShape) : List Call :=
  .createDirectory (pathOf ["Bench"]) :: (List.range shape.packages).flatMap (packageCalls shape)

/-- A classifier with a name makes its file in the directory that it is planned in. -/
theorem plans_file {id : ElementId} {element : Element} {kind : ClassifierKind} {classifier : Classifier}
    (found : (model shape).element? id = some element) (isClassifier : element.content = .classifier kind classifier)
    (named : element.name ≠ "") (plain : kind = .classType ∨ kind = .interface) (names : List String) :
    Plans (model shape) {} [id] (pathOf names)
      [.writeFile (pathOf (names ++ [element.name ++ ".php"])) (textOf shape id)] := by
  obtain ⟨-, unit, rendered⟩ := @exists_file (model shape) {} id element kind classifier found isClassifier named
  have called : Php.fileName? (model shape) {} id = some (element.name ++ ".php") := by
    rcases plain with rfl | rfl <;> simp [Php.fileName?, found, named, isClassifier, Content.kind?]
  have text : textOf shape id = unit.finish := by rw [textOf, rendered]; rfl
  rw [Output.pathOf_concat, text]
  exact .file (.file found isClassifier named called rendered) .nil

/-- What a package holds is planned in its directory. -/
theorem plans_packageFiles {package : Nat} (inside : package < shape.packages) :
    Plans (model shape) {} ((packageFiles shape package).map Prod.snd) (pathOf (packagePlace package))
      ((packageFiles shape package).map fun (fileName, id) =>
        .writeFile (pathOf (packagePlace package ++ [fileName])) (textOf shape id)) := by
  rw [List.map_eq_flatMap (f := fun (file : String × ElementId) =>
    Call.writeFile (pathOf (packagePlace package ++ [file.1])) (textOf shape file.2))]
  refine Plans.flatMap fun file listed => ?_
  rcases List.mem_cons.mp listed with rfl | listed
  · exact plans_file (element?_service inside) rfl (by simp [serviceElement]) (.inr rfl) (packagePlace package)
  · obtain ⟨index, within, rfl⟩ := List.mem_map.mp listed
    exact plans_file (element?_entity inside (List.mem_range.mp within)) rfl (by simp [entityElement]) (.inl rfl)
      (packagePlace package)

theorem plans_package {package : Nat} (inside : package < shape.packages) :
    Plans (model shape) {} [packageId shape package] (pathOf ["Bench"]) (packageCalls shape package) := by
  have found := element?_package inside
  have owned : (model shape).owned (packageId shape package) = (packageFiles shape package).map Prod.snd := by
    rw [Model.owned, found, packageFiles, List.map_cons, List.map_map]
    rfl
  have makes : Makes (model shape) {} (packageId shape package) (pathOf ["Bench"])
      (.createDirectory (pathOf (packagePlace package))) :=
    makes_directory found rfl (by simp [packageElement]) ["Bench"]
  have within := plans_packageFiles inside
  rw [← owned] at within
  have plan := Plans.package makes within .nil
  rwa [List.append_nil] at plan

/-- The calls for a sample are those that are planned for its model. -/
theorem plans (shape : SampleShape) : Plans (model shape) {} [Model.root] "" (calls shape) := by
  have owned : (model shape).owned Model.root = (List.range shape.packages).map (packageId shape) := by
    rw [Model.owned, element?_root]
    rfl
  have makes : Makes (model shape) {} Model.root "" (.createDirectory (pathOf ["Bench"])) :=
    makes_directory element?_root rfl (by simp [rootElement]) []
  have within : Plans (model shape) {} ((model shape).owned Model.root) (pathOf ["Bench"])
      ((List.range shape.packages).flatMap (packageCalls shape)) := by
    rw [owned]
    exact Plans.flatMap fun package inside => plans_package (List.mem_range.mp inside)
  have plan := Plans.package makes within .nil
  rwa [List.append_nil] at plan

/-! ### Paths -/

/-- The names of the files of a sample, each with those of its directory. -/
def fileNames (shape : SampleShape) : List (List String) :=
  (List.range shape.packages).flatMap fun package =>
    (packageFiles shape package).map fun file => packagePlace package ++ [file.1]

theorem length_fileNames (shape : SampleShape) : (fileNames shape).length = shape.packages * (shape.classes + 1) := by
  simp [fileNames, packageFiles, List.length_flatMap]

/-- Every file of a package is called after a label and a number. -/
theorem exists_of_mem_packageFiles {package : Nat} {file : String × ElementId}
    (listed : file ∈ packageFiles shape package) :
    ∃ label ∈ ["Service", "Entity"], ∃ number : Nat, file.1 = label ++ toString number ++ ".php" := by
  rcases List.mem_cons.mp listed with rfl | listed
  · exact ⟨"Service", by simp, package, rfl⟩
  · obtain ⟨index, -, rfl⟩ := List.mem_map.mp listed
    exact ⟨"Entity", by simp, index, rfl⟩

theorem slash_notMem_number (n : Nat) : '/' ∉ (toString n).toList := fun member =>
  absurd (isDigit_of_mem_number member) (by decide)

/-- A label and a number are a plain name. -/
theorem isPlain_numbered (n : Nat) : IsPlain ("Pkg" ++ toString n) where
  filled same := by simp at same
  single := by
    rw [String.toList_append, List.mem_append, not_or]
    exact ⟨by decide, slash_notMem_number n⟩
  notHere same := by
    have first := congrArg (fun text => text.toList.head?) same
    simp at first
  notUp same := by
    have first := congrArg (fun text => text.toList.head?) same
    simp at first

theorem isPlain_of_mem_fileNames {names : List String} (listed : names ∈ fileNames shape) :
    ∀ name ∈ names, IsPlain name := by
  obtain ⟨package, -, listed⟩ := List.mem_flatMap.mp listed
  obtain ⟨file, member, rfl⟩ := List.mem_map.mp listed
  obtain ⟨label, known, number, called⟩ := exists_of_mem_packageFiles member
  have source : IsPlain file.1 := by
    rw [called]
    refine isPlain_source ?_
    rw [String.toList_append, List.mem_append, not_or]
    refine ⟨?_, slash_notMem_number number⟩
    rcases List.mem_pair.mp known with rfl | rfl <;> decide
  have bench : IsPlain "Bench" := ⟨by decide, by decide, by decide, by decide⟩
  exact List.forall_mem_cons.mpr ⟨bench, List.forall_mem_cons.mpr ⟨isPlain_numbered package,
    List.forall_mem_singleton.mpr source⟩⟩

/-- The files of a package have different names. -/
theorem nodup_packageFiles (package : Nat) : ((packageFiles shape package).map Prod.fst).Nodup := by
  rw [packageFiles, List.map_cons, List.map_map, List.nodup_cons]
  constructor
  · intro member
    obtain ⟨index, -, same⟩ := List.mem_map.mp member
    have first := congrArg (fun text => text.toList.head?) same
    simp at first
  · refine List.nodup_range.map fun index number same => ?_
    exact number_inj ((String.append_right_inj _).mp ((String.append_left_inj _).mp same))

/-- No two files have the same names. -/
theorem nodup_fileNames (shape : SampleShape) : (fileNames shape).Nodup := by
  rw [fileNames, List.nodup_flatMap]
  constructor
  · intro package _
    have distinct := (@nodup_packageFiles shape package).map
      (f := fun name => packagePlace package ++ [name]) fun name other same => by simpa using same
    rwa [List.map_map] at distinct
  · refine List.nodup_range.imp fun {package other} differ names member member' => differ ?_
    obtain ⟨file, -, rfl⟩ := List.mem_map.mp member
    obtain ⟨file', -, same⟩ := List.mem_map.mp member'
    have places : "Pkg" ++ toString other = "Pkg" ++ toString package := by
      simp only [packagePlace, List.cons_append, List.nil_append, List.cons.injEq] at same
      exact same.2.1
    exact (number_inj ((String.append_right_inj _).mp places)).symm

/-- The files that are written are those with these names. -/
theorem exists_writeFile_iff {key : List Output.PathPart} :
    (∃ path text, .writeFile path text ∈ calls shape ∧ parts path = key) ↔
      key ∈ (fileNames shape).map (List.map .name) := by
  rw [List.mem_map]
  constructor
  · rintro ⟨path, text, listed, rfl⟩
    rcases List.mem_cons.mp listed with directory | listed
    · cases directory
    obtain ⟨package, inside, listed⟩ := List.mem_flatMap.mp listed
    rcases List.mem_cons.mp listed with directory | listed
    · cases directory
    obtain ⟨file, member, same⟩ := List.mem_map.mp listed
    cases same
    have named : packagePlace package ++ [file.1] ∈ fileNames shape :=
      List.mem_flatMap.mpr ⟨package, inside, List.mem_map.mpr ⟨file, member, rfl⟩⟩
    exact ⟨_, named, (Output.parts_pathOf (isPlain_of_mem_fileNames named)).symm⟩
  · rintro ⟨names, named, rfl⟩
    have shown := Output.parts_pathOf (isPlain_of_mem_fileNames named)
    obtain ⟨package, inside, listed⟩ := List.mem_flatMap.mp named
    obtain ⟨file, member, rfl⟩ := List.mem_map.mp listed
    refine ⟨_, textOf shape file.2, List.mem_cons_of_mem _ (List.mem_flatMap.mpr ⟨package, inside, ?_⟩), shown⟩
    exact List.mem_cons_of_mem _ (List.mem_map.mpr ⟨file, member, rfl⟩)

theorem hasPlainFiles_model (shape : SampleShape) : HasPlainFiles (model shape) {} where
  classifiers id element kind classifier found content := by
    have plain : ∀ label, '/' ∉ String.toList label → ∀ n : Nat, '/' ∉ (label ++ toString n).toList := by
      intro label single n
      rw [String.toList_append, List.mem_append, not_or]
      exact ⟨single, slash_notMem_number n⟩
    rcases mem_elements_cases (mem_elements_of_element? found) with rfl | ⟨package, -, rfl | rfl | ⟨index, -, rfl⟩⟩
    · cases content
    · cases content
    · exact plain "Service" (by decide) package
    · exact plain "Entity" (by decide) index
  classSuffix := by decide
  interfaceSuffix := by decide

/-- Generating the sources of a sample gives a file for each interface and each class. -/
theorem exists_sources (shape : SampleShape) : ∃ files, sourcesOf (sampleDocument shape) {} = .ok files ∧
    files.length = shape.packages * (shape.classes + 1) := by
  have tree := (isRecorded_model shape).isTree
  obtain ⟨makers, arranged⟩ := Arranges.of_plans tree (plans shape) Output.pathOf_nil.symm
  obtain ⟨memory, performed, holds⟩ := Memory.exists_perform (arranged.housed (hasPlainFiles_model shape))
  have known : ((model shape).element? Model.root).isSome := Option.isSome_of_eq_some element?_root
  obtain ⟨notices, ran⟩ := performs_generate tree known Memory.store (plans shape) ⟨.empty, []⟩
  rw [performed] at ran
  have generated : (generateModel (Target.ofStore Memory.store) (model shape) {}).run.run ⟨.empty, []⟩ =
      (.ok (), ⟨memory, notices⟩) := ran
  refine ⟨memory.files.entries.map fun entry => (entry.path, entry.value), ?_, ?_⟩
  · rw [sourcesOf, ofDocument_eq_model]
    simp only [Except.mapError, bind, Except.bind, generated]
    rfl
  · -- The keys of the files are the paths that are written, and neither list has one twice.
    have keys : (memory.files.entries.map Output.PathEntry.key).Perm ((fileNames shape).map (List.map .name)) := by
      refine (List.perm_ext_iff_of_nodup ?_ ?_).mpr fun key => ?_
      · exact holds.files_ordered.nodup_keys
      · have injective : Function.Injective Output.PathPart.name := fun _ _ => Output.PathPart.name.inj
        exact (nodup_fileNames shape).map injective.list_map
      · rw [← exists_writeFile_iff, ← Output.PathMap.containsKey_iff, Output.PathMap.containsKey_eq, holds.files,
          Output.written?_isSome]
    rw [List.length_map, ← List.length_map (f := Output.PathEntry.key), keys.length_eq, List.length_map,
      length_fileNames]

/-! ### Samples of every shape -/

/-- The model is as large as the shape asks for. Each package owns an interface and its classes, in this order; each
    class has its attributes of type `string` in the order of their numbers, and in every package but the first one
    more attribute, whose type is the first class of the package before; there are no other classes; and the
    relationships are the realizations of the interface of a package by its classes. -/
structure Fits (shape : SampleShape) (model : Model) : Prop where
  size : model.elements.size = 1 + shape.packages * (2 + shape.classes)
  packages : ∀ package < shape.packages, model.element? (packageId shape package) = some {
    id := packageId shape package
    name := "Pkg" ++ toString package
    parent? := some Model.root
    owned := serviceId shape package :: (List.range shape.classes).map (entityId shape package)
    content := .package }
  services : ∀ package < shape.packages, ∃ classifier, model.element? (serviceId shape package) = some {
    id := serviceId shape package
    name := "Service" ++ toString package
    parent? := some (packageId shape package)
    content := .classifier .interface classifier }
  entities : ∀ package < shape.packages, ∀ index < shape.classes, ∃ classifier,
    model.element? (entityId shape package index) = some {
      id := entityId shape package index
      name := "Entity" ++ toString index
      parent? := some (packageId shape package)
      content := .classifier .classType classifier } ∧
    classifier.attributes =
      ((List.range shape.attributes).map fun number =>
        { name := "field_" ++ toString number, type := .primitive "string", visibility := .priv }) ++
      if 0 < package then
        [{ name := "peer", type := .element (entityId shape (package - 1) 0), visibility := .priv }]
      else []
  classes : ∀ id, model.isClass id = true ↔
    ∃ package < shape.packages, ∃ index < shape.classes, id = entityId shape package index
  count : model.relationships.length = shape.packages * shape.classes
  relationships : ∀ relationship, relationship ∈ model.relationships ↔
    ∃ package < shape.packages, ∃ index < shape.classes,
      relationship = .realization (entityId shape package index) (serviceId shape package)

theorem fits_model (shape : SampleShape) : Fits shape (model shape) where
  size := size_elements
  packages package inside := element?_package inside
  services package inside := ⟨_, element?_service inside⟩
  entities package inside index within := by
    refine ⟨_, element?_entity inside within, ?_⟩
    cases package with
    | zero => rfl
    | succ before => rfl
  classes id := by
    constructor
    · intro isClass
      obtain ⟨element, found, sort⟩ := (Option.any_eq_true _ _).mp isClass
      have identity := (isRecorded_model shape).identity id element found
      rcases mem_elements_cases (mem_elements_of_element? found) with
        rfl | ⟨package, inside, rfl | rfl | ⟨index, within, rfl⟩⟩
      · cases sort
      · cases sort
      · cases sort
      · exact ⟨package, inside, index, within, identity.symm⟩
    · rintro ⟨package, inside, index, within, rfl⟩
      rw [Model.isClass, element?_entity inside within]
      rfl
  count := by
    rw [model, realizations, List.length_map, List.length_product, List.length_range, List.length_range]
  relationships relationship := by
    constructor
    · intro listed
      obtain ⟨⟨package, index⟩, pair, rfl⟩ := List.mem_map.mp listed
      obtain ⟨inside, within⟩ := List.mem_product.mp pair
      exact ⟨package, List.mem_range.mp inside, index, List.mem_range.mp within, rfl⟩
    · rintro ⟨package, inside, index, within, rfl⟩
      exact List.mem_map.mpr ⟨(package, index),
        List.mem_product.mpr ⟨List.mem_range.mpr inside, List.mem_range.mpr within⟩, rfl⟩

end Sample

/-- Samples are accepted from the text to the files, whatever their shape. The document of a sample is read to a model
    that fits the shape; the model keeps all structural rules; and with the default options its sources are one file
    for each interface and each class. -/
theorem sample_is_accepted (shape : SampleShape) :
    ∃ model, Model.ofDocument (sampleDocument shape) = .ok model ∧ Sample.Fits shape model ∧
      model.validate = .ok () ∧
      ∃ files, sourcesOf (sampleDocument shape) {} = .ok files ∧
        files.length = shape.packages * (shape.classes + 1) :=
  ⟨Sample.model shape, Sample.ofDocument_eq_model shape, Sample.fits_model shape, Sample.validate_model shape,
    Sample.exists_sources shape⟩

end Blueprint
