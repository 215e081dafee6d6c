/-
Module: Blueprint.Proofs.Sample.Model
Purpose: The model of a sample. Its elements are numbered through: the model itself, and then each package with its
  interface and its classes. Different numbers are written by different digits, so that all keys differ and each is
  found; the class before which a class refers to exists whenever the class does. The text of a sample is therefore
  read to this model for every shape.
Main exports: Sample.packageId, Sample.serviceId, Sample.entityId, Sample.elements, Sample.model,
  Sample.ofDocument_eq_model
-/
import Blueprint.Proofs.Sample.Text
import Mathlib.Data.List.ProdSigma

namespace Blueprint.Sample

open Document

variable (shape : SampleShape)

/-! ### The model -/

/-- The identity of a package. -/
def packageId (package : Nat) : ElementId :=
  1 + package * (2 + shape.classes)

/-- The identity of the interface of a package. -/
def serviceId (package : Nat) : ElementId :=
  packageId shape package + 1

/-- The identity of a class of a package. -/
def entityId (package index : Nat) : ElementId :=
  packageId shape package + 2 + index

/-- The model itself. -/
def rootElement : Element where
  id := Model.root
  name := "Bench"
  parent? := none
  owned := (List.range shape.packages).map (packageId shape)
  content := .model

/-- A package, which owns its interface and its classes. -/
def packageElement (package : Nat) : Element where
  id := packageId shape package
  name := "Pkg" ++ toString package
  parent? := some Model.root
  owned := serviceId shape package :: (List.range shape.classes).map (entityId shape package)
  content := .package

/-- The operation of the interfaces. -/
def run : Operation where
  name := "run"
  parameters := [{ type := .primitive "int", direction := .result }]

/-- The interface of a package. -/
def serviceElement (package : Nat) : Element where
  id := serviceId shape package
  name := "Service" ++ toString package
  parent? := some (packageId shape package)
  content := .classifier .interface { operations := [run] }

/-- The attribute that refers to the first class of the package before, if there is one. -/
def peers : (package : Nat) → List Attribute
  | 0 => []
  | before + 1 => [{ name := "peer", type := .element (entityId shape before 0), visibility := .priv }]

/-- The attributes of the classes of a package. -/
def members (package : Nat) : List Attribute :=
  (List.range shape.attributes).map field ++ peers shape package

/-- A class of a package. -/
def entityElement (package index : Nat) : Element where
  id := entityId shape package index
  name := "Entity" ++ toString index
  parent? := some (packageId shape package)
  content := .classifier .classType { stereotype? := some "countable", attributes := members shape package }

/-- The elements of a package, in document order. -/
def packageElements (package : Nat) : List Element :=
  packageElement shape package :: serviceElement shape package ::
    (List.range shape.classes).map (entityElement shape package)

/-- All elements, in document order. -/
def elements : List Element :=
  rootElement shape :: (List.range shape.packages).flatMap (packageElements shape)

/-- The keys of a package, with the elements that they name. -/
def packageKeys (package : Nat) : List (String × ElementId) :=
  (serviceKey package, serviceId shape package) ::
    (List.range shape.classes).map fun index => (entityKey package index, entityId shape package index)

/-- Every class realizes the interface of its package. -/
def realizations : List Relationship :=
  (List.range shape.packages ×ˢ List.range shape.classes).map fun (package, index) =>
    .realization (entityId shape package index) (serviceId shape package)

/-- The model of a sample. -/
def model : Model where
  author? := some "bench"
  elements := (elements shape).toArray
  relationships := realizations shape
  keys := ((List.range shape.packages).flatMap (packageKeys shape)).reverse

/-! ### Outlines put together from others -/

section Views

variable {α β : Type}

/-- A view that passes over declarations shows what is behind them. -/
theorem view_passes (view : Outline → β) (declare : α → Outline → Outline)
    (passes : ∀ item rest, view (declare item rest) = view rest) (items : List α) (rest : Outline) :
    view (items.foldr declare rest) = view rest := by
  induction items with
  | nil => rfl
  | cons item items ih => rw [List.foldr_cons, passes, ih]

/-- A view that shows something of each declaration shows it for one after the other. -/
theorem view_foldr (view : Outline → List β) {declare : α → Outline → Outline} {piece : α → List β}
    (step : ∀ item rest, view (declare item rest) = piece item ++ view rest) (items : List α) (rest : Outline) :
    view (items.foldr declare rest) = items.flatMap piece ++ view rest := by
  induction items with
  | nil => rfl
  | cons item items ih => rw [List.foldr_cons, step, ih, List.flatMap_cons, List.append_assoc]

/-- The same for declarations that are numbered through. -/
theorem view_range (view : ElementId → Outline → List β) {declare : Nat → Outline → Outline} {place : Nat → ElementId}
    {piece : Nat → List β} {count : Nat}
    (step : ∀ index < count, ∀ rest,
      view (place index) (declare index rest) = piece index ++ view (place (index + 1)) rest) (rest : Outline) :
    view (place 0) ((List.range count).foldr declare rest) =
      (List.range count).flatMap piece ++ view (place count) rest := by
  induction count generalizing rest with
  | zero => rfl
  | succ count ih =>
      rw [List.range_succ, List.foldr_concat, ih fun index below => step index (Nat.lt_succ_of_lt below),
        step count (Nat.lt_succ_self count), List.flatMap_append, List.flatMap_singleton, List.append_assoc]

/-- A view that passes over attributes shows nothing of them. -/
theorem view_attributes (view : Outline → β) (passes : ∀ record rest, view (.attr record rest) = view rest)
    (records : List AttributeTag) : view (records.foldr .attr .nil) = view .nil :=
  view_passes view Outline.attr passes records .nil

theorem attributes_foldr (records : List AttributeTag) :
    (records.foldr Outline.attr .nil).attributes = records := by
  induction records with
  | nil => rfl
  | cons record records ih => rw [List.foldr_cons, Outline.attributes, ih]

end Views

/-! ### Numbers of elements -/

variable {shape}

theorem packageId_succ (package : Nat) :
    packageId shape (package + 1) = packageId shape package + 1 + (shape.classes + 1) := by
  have product := Nat.add_one_mul package (2 + shape.classes)
  show (1 + (package + 1) * (2 + shape.classes) : Nat) = 1 + package * (2 + shape.classes) + 1 + (shape.classes + 1)
  omega

theorem size_entityOutline (package index : Nat) (rest : Outline) :
    (entityOutline shape package index rest).size = rest.size + 1 := by
  rw [entityOutline, Outline.size, view_attributes Outline.size fun _ _ => rfl]
  exact Nat.add_comm _ _

theorem size_packageInside (package : Nat) : (packageInside shape package).size = shape.classes + 1 := by
  have classes : ∀ indices : List Nat,
      (indices.foldr (entityOutline shape package) .nil).size = indices.length := by
    intro indices
    induction indices with
    | nil => rfl
    | cons index indices ih => rw [List.foldr_cons, size_entityOutline, ih, List.length_cons]
  rw [packageInside, Outline.size, classes, List.length_range]
  exact Nat.add_comm 1 _

/-! ### Keys and their elements -/

theorem keyed_entityOutline (package index : Nat) (rest : Outline) :
    (entityOutline shape package index rest).keyed (entityId shape package index) =
      [(entityKey package index, entityId shape package index)] ++
        rest.keyed (entityId shape package (index + 1)) := by
  rw [entityOutline, Outline.keyed, view_attributes Outline.size fun _ _ => rfl,
    view_attributes (fun inside => inside.keyed (entityId shape package index + 1)) fun _ _ => rfl]
  rfl

theorem keyed_packageInside (package : Nat) :
    (packageInside shape package).keyed (packageId shape package + 1) = packageKeys shape package := by
  have classes := view_range (fun next outline => outline.keyed next)
    (fun index (_ : index < shape.classes) => @keyed_entityOutline shape package index) .nil
  refine congrArg (_ :: ·) (classes.trans ?_)
  rw [← List.map_eq_flatMap]
  exact List.append_nil _

theorem keyed_packageOutline (package : Nat) (rest : Outline) :
    (packageOutline shape package rest).keyed (packageId shape package) =
      packageKeys shape package ++ rest.keyed (packageId shape (package + 1)) := by
  rw [packageOutline, Outline.keyed, size_packageInside, ← packageId_succ, keyed_packageInside]
  rfl

theorem keyed_outline : (outline shape).keyed 1 = (List.range shape.packages).flatMap (packageKeys shape) := by
  have first : packageId shape 0 = 1 := by simp [packageId]
  have keyed := view_range (fun next outline => outline.keyed next)
    (fun package (_ : package < shape.packages) => @keyed_packageOutline shape package) .nil
  rw [first] at keyed
  exact keyed.trans (List.append_nil _)

/-! ### Elements -/

theorem ids_packageInside (package : Nat) : (packageInside shape package).ids (packageId shape package + 1) =
    serviceId shape package :: (List.range shape.classes).map (entityId shape package) := by
  have step : ∀ index < shape.classes, ∀ rest,
      (entityOutline shape package index rest).ids (entityId shape package index) =
        [entityId shape package index] ++ rest.ids (entityId shape package (index + 1)) := by
    intro index _ rest
    rw [entityOutline, Outline.ids, view_attributes Outline.size fun _ _ => rfl]
    rfl
  refine congrArg (_ :: ·) ((view_range (fun next outline => outline.ids next) step .nil).trans ?_)
  rw [← List.map_eq_flatMap]
  exact List.append_nil _

theorem ids_outline : (outline shape).ids 1 = (List.range shape.packages).map (packageId shape) := by
  have first : packageId shape 0 = 1 := by simp [packageId]
  have step : ∀ package < shape.packages, ∀ rest,
      (packageOutline shape package rest).ids (packageId shape package) =
        [packageId shape package] ++ rest.ids (packageId shape (package + 1)) := by
    intro package _ rest
    rw [packageOutline, Outline.ids, size_packageInside, ← packageId_succ]
    rfl
  have ids := view_range (fun next outline => outline.ids next) step .nil
  rw [first, ← List.map_eq_flatMap] at ids
  exact ids.trans (List.append_nil _)

section Elements

variable {lookup : String → Option ElementId}
  (names : ∀ package < shape.packages, ∀ index < shape.classes,
    lookup (entityKey package index) = some (entityId shape package index))

include names

/-- The class that the classes of a package refer to is found, because there is one in the package before when there
    is one in the package itself. -/
theorem resolved_memberTags {package index : Nat} (inside : package < shape.packages) (within : index < shape.classes) :
    (memberTags shape package).map (·.resolved lookup) = members shape package := by
  have fields : ∀ number, AttributeTag.resolved lookup { member := field number } = field number := fun _ => rfl
  have peer : (peerTags package).map (·.resolved lookup) = peers shape package := by
    cases package with
    | zero => rfl
    | succ before =>
        have known := names before (Nat.lt_of_succ_lt inside) 0 (Nat.zero_lt_of_lt within)
        simp [peerTags, peers, AttributeTag.resolved, resolvedType, known]
  rw [memberTags, members, List.map_append, List.map_map, peer]
  rfl

theorem elements_entityOutline {package index : Nat} (inside : package < shape.packages)
    (within : index < shape.classes) (rest : Outline) :
    (entityOutline shape package index rest).elements lookup (packageId shape package) (entityId shape package index) =
      [entityElement shape package index] ++
        rest.elements lookup (packageId shape package) (entityId shape package (index + 1)) := by
  rw [entityOutline, Outline.elements, Outline.content, attributes_foldr,
    view_attributes Outline.size fun _ _ => rfl,
    view_attributes (fun inside => inside.documentationAfter "") fun _ _ => rfl,
    view_attributes (fun inside => inside.ids (entityId shape package index + 1)) fun _ _ => rfl,
    view_attributes (fun inside => inside.elements lookup (entityId shape package index)
      (entityId shape package index + 1)) fun _ _ => rfl,
    view_attributes Outline.operations fun _ _ => rfl, view_attributes Outline.literals fun _ _ => rfl,
    resolved_memberTags names inside within]
  rfl

theorem elements_packageInside {package : Nat} (inside : package < shape.packages) :
    (packageInside shape package).elements lookup (packageId shape package) (packageId shape package + 1) =
      serviceElement shape package :: (List.range shape.classes).map (entityElement shape package) := by
  have classes := view_range (fun next outline => outline.elements lookup (packageId shape package) next)
    (fun index within rest => elements_entityOutline names inside within rest) .nil
  refine congrArg (_ :: ·) (classes.trans ?_)
  rw [← List.map_eq_flatMap]
  exact List.append_nil _

theorem elements_packageOutline {package : Nat} (inside : package < shape.packages) (rest : Outline) :
    (packageOutline shape package rest).elements lookup Model.root (packageId shape package) =
      packageElements shape package ++ rest.elements lookup Model.root (packageId shape (package + 1)) := by
  have undocumented : (packageInside shape package).documentationAfter "" = "" :=
    view_passes (fun outline => outline.documentationAfter "") (entityOutline shape package) (fun _ _ => rfl)
      (List.range shape.classes) .nil
  rw [packageOutline, Outline.elements, size_packageInside, ← packageId_succ, elements_packageInside names inside,
    ids_packageInside, undocumented]
  rfl

theorem elements_outline : (outline shape).elements lookup Model.root 1 =
    (List.range shape.packages).flatMap (packageElements shape) := by
  have first : packageId shape 0 = 1 := by simp [packageId]
  have elements := view_range (fun next outline => outline.elements lookup Model.root next)
    (fun package inside rest => elements_packageOutline names inside rest) .nil
  rw [first] at elements
  exact elements.trans (List.append_nil _)

end Elements

/-! ### Keys are told apart -/

/-- Different numbers are written differently. -/
theorem number_inj {m n : Nat} (same : toString m = toString n) : m = n := by
  have digits := congrArg String.toList same
  simp only [Nat.toString_eq_ofList_toDigits, String.toList_ofList] at digits
  calc
    m = Nat.ofDigitChars 10 (Nat.toDigits 10 m) 0 := Nat.ofDigitChars_ten_toDigits.symm
    _ = Nat.ofDigitChars 10 (Nat.toDigits 10 n) 0 := by rw [digits]
    _ = n := Nat.ofDigitChars_ten_toDigits

theorem serviceKey_inj {package other : Nat} (same : serviceKey package = serviceKey other) : package = other :=
  number_inj ((String.append_right_inj "i").mp same)

/-- No digit is the sign between the two numbers of a class. -/
theorem entityKey_inj {package other index number : Nat} (same : entityKey package index = entityKey other number) :
    package = other ∧ index = number := by
  have apart : ∀ n : Nat, '_' ∉ (toString n).toList := fun n member =>
    absurd (isDigit_of_mem_number member) (by decide)
  have texts := congrArg String.toList same
  unfold entityKey at texts
  simp only [String.toList_append, String.reduceToList, List.cons_append, List.nil_append, List.append_assoc] at texts
  obtain ⟨-, texts⟩ := List.cons.inj texts
  obtain ⟨packages, -, indices⟩ := (List.append_cons_inj_of_notMem (apart _) (apart _)).mp texts
  exact ⟨number_inj (String.toList_inj.mp packages), number_inj (String.toList_inj.mp indices)⟩

theorem serviceKey_ne_entityKey (package other index : Nat) : serviceKey package ≠ entityKey other index := by
  intro same
  have texts := congrArg String.toList same
  unfold entityKey serviceKey at texts
  simp only [String.toList_append, String.reduceToList, List.cons_append] at texts
  exact absurd (List.cons.inj texts).1 (by decide)

theorem mem_packageKeys {package : Nat} {key : String} : key ∈ (packageKeys shape package).map Prod.fst ↔
    key = serviceKey package ∨ ∃ index < shape.classes, key = entityKey package index := by
  simp [packageKeys, eq_comm]

/-- No key is declared twice. -/
theorem nodup_keys (shape : SampleShape) :
    (((List.range shape.packages).flatMap (packageKeys shape)).map Prod.fst).Nodup := by
  rw [List.map_flatMap, List.nodup_flatMap]
  constructor
  · intro package _
    rw [packageKeys, List.map_cons, List.map_map, List.nodup_cons]
    constructor
    · intro member
      obtain ⟨index, -, same⟩ := List.mem_map.mp member
      exact serviceKey_ne_entityKey package package index same.symm
    · exact List.nodup_range.map fun index number same => (entityKey_inj same).2
  · refine List.nodup_range.imp fun {package other} differ key member member' => differ ?_
    rcases mem_packageKeys.mp member with rfl | ⟨index, -, rfl⟩
    · rcases mem_packageKeys.mp member' with same | ⟨number, -, same⟩
      · exact serviceKey_inj same
      · exact absurd same (serviceKey_ne_entityKey _ _ _)
    · rcases mem_packageKeys.mp member' with same | ⟨number, -, same⟩
      · exact absurd same.symm (serviceKey_ne_entityKey _ _ _)
      · exact (entityKey_inj same).1

/-! ### The model of the outline -/

theorem links_outline : (outline shape).links =
    (List.range shape.packages ×ˢ List.range shape.classes).map fun (package, index) =>
      .realization (entityKey package index) (serviceKey package) := by
  have classes : ∀ package rest, (packageOutline shape package rest).links =
      ((List.range shape.classes).map fun index => .realization (entityKey package index) (serviceKey package)) ++
        rest.links := by
    intro package rest
    have step : ∀ index rest, (entityOutline shape package index rest).links =
        [.realization (entityKey package index) (serviceKey package)] ++ rest.links := by
      intro index rest
      rw [entityOutline, Outline.links, view_attributes Outline.links fun _ _ => rfl]
      rfl
    have links := view_foldr Outline.links step (List.range shape.classes) .nil
    rw [← List.map_eq_flatMap] at links
    refine congrArg (· ++ rest.links) (links.trans (List.append_nil _))
  have product : List.range shape.packages ×ˢ List.range shape.classes =
      (List.range shape.packages).flatMap fun package => (List.range shape.classes).map (Prod.mk package) := rfl
  rw [product, List.map_flatMap]
  simp only [List.map_map]
  exact (view_foldr Outline.links classes (List.range shape.packages) .nil).trans (List.append_nil _)

/-- What a class mentions is the key of the class that it refers to. -/
theorem mentions_memberTags (package : Nat) : ((memberTags shape package).foldr Outline.attr .nil).mentions =
    (peerTags package).flatMap fun record => record.typeKey?.toList.map (.attributeType, ·) := by
  have step : ∀ record rest, (Outline.attr record rest).mentions =
      record.typeKey?.toList.map (.attributeType, ·) ++ rest.mentions := fun _ _ => rfl
  have fields : ((List.range shape.attributes).map fun index => ({ member := field index } : AttributeTag)).flatMap
      (fun record => record.typeKey?.toList.map (ReferenceContext.attributeType, ·)) = [] := by
    simp
  refine (view_foldr Outline.mentions step (memberTags shape package) .nil).trans ?_
  rw [memberTags, List.flatMap_append, fields]
  exact List.append_nil _

/-- Only first classes of packages are mentioned, and only when there are classes. -/
theorem exists_of_mem_mentions {mention : ReferenceContext × String} (member : mention ∈ (outline shape).mentions) :
    ∃ before < shape.packages, 0 < shape.classes ∧ mention.2 = entityKey before 0 := by
  have entities : ∀ package index rest, (entityOutline shape package index rest).mentions =
      ((peerTags package).flatMap fun record => record.typeKey?.toList.map (.attributeType, ·)) ++
        rest.mentions := by
    intro package index rest
    rw [entityOutline, Outline.mentions, mentions_memberTags]
    rfl
  have packages : ∀ package rest, (packageOutline shape package rest).mentions =
      ((List.range shape.classes).flatMap fun _ =>
        (peerTags package).flatMap fun record => record.typeKey?.toList.map (.attributeType, ·)) ++
          rest.mentions := by
    intro package rest
    have mentions := view_foldr Outline.mentions (entities package) (List.range shape.classes) .nil
    exact congrArg (· ++ rest.mentions) (mentions.trans (List.append_nil _))
  have all := view_foldr Outline.mentions packages (List.range shape.packages) .nil
  rw [outline, all] at member
  rcases List.mem_append.mp member with member | nothing
  · obtain ⟨package, inside, member⟩ := List.mem_flatMap.mp member
    obtain ⟨index, within, member⟩ := List.mem_flatMap.mp member
    rw [List.mem_range] at inside within
    cases package with
    | zero => cases member
    | succ before =>
        obtain rfl := List.mem_singleton.mp member
        exact ⟨before, Nat.lt_of_succ_lt inside, Nat.zero_lt_of_lt within, rfl⟩
  · cases nothing

/-- In the model of the outline each key names its element. -/
theorem lookup_outline (key : String) (id : ElementId) :
    ((outline shape).unrelated modelTag).lookup key = some id ↔
      (key, id) ∈ (List.range shape.packages).flatMap (packageKeys shape) := by
  have keys : ((outline shape).unrelated modelTag).keys =
      ((List.range shape.packages).flatMap (packageKeys shape)).reverse := congrArg List.reverse keyed_outline
  have distinct : (((List.range shape.packages).flatMap (packageKeys shape)).reverse.map Prod.fst).Nodup := by
    rw [List.map_reverse, List.nodup_reverse]
    exact nodup_keys shape
  rw [Model.lookup, keys, lookup_iff_mem distinct, List.mem_reverse]

theorem lookup_serviceKey {package : Nat} (inside : package < shape.packages) :
    ((outline shape).unrelated modelTag).lookup (serviceKey package) = some (serviceId shape package) :=
  (lookup_outline _ _).mpr (List.mem_flatMap.mpr ⟨package, List.mem_range.mpr inside, List.mem_cons_self⟩)

theorem lookup_entityKey {package index : Nat} (inside : package < shape.packages) (within : index < shape.classes) :
    ((outline shape).unrelated modelTag).lookup (entityKey package index) = some (entityId shape package index) :=
  (lookup_outline _ _).mpr (List.mem_flatMap.mpr ⟨package, List.mem_range.mpr inside,
    List.mem_cons_of_mem _ (List.mem_map.mpr ⟨index, List.mem_range.mpr within, rfl⟩)⟩)

/-- The outline of a sample is that of its model, before the relationships are known. -/
theorem unrelated_outline (shape : SampleShape) :
    (outline shape).unrelated modelTag = { model shape with relationships := [] } := by
  have undocumented : (outline shape).documentationAfter "" = "" :=
    view_passes (fun outline => outline.documentationAfter "") (packageOutline shape) (fun _ _ => rfl)
      (List.range shape.packages) .nil
  have found : (outline shape).elements (fun key => ((outline shape).keyed 1).reverse.lookup key) Model.root 1 =
      (List.range shape.packages).flatMap (packageElements shape) :=
    elements_outline fun package inside index within => lookup_entityKey inside within
  rw [Outline.unrelated, found, Outline.rootElement, ids_outline, undocumented, keyed_outline]
  rfl

/-- The text of a sample is read to its model. -/
theorem ofDocument_eq_model (shape : SampleShape) : Model.ofDocument (sampleDocument shape) = .ok (model shape) := by
  have distinct : (outline shape).keys.Nodup := by
    rw [← keys_eq _ 1, keyed_outline]
    exact nodup_keys shape
  have mentioned := (@forM_mentions_eq_ok (outline shape) distinct modelTag).mpr fun key member => by
    obtain ⟨mention, listed, rfl⟩ := List.mem_map.mp member
    obtain ⟨before, inside, filled, same⟩ := exists_of_mem_mentions listed
    exact ⟨_, (lookup_unrelated distinct modelTag _ _).mp (same ▸ lookup_entityKey inside filled)⟩
  have related : (outline shape).links.mapM (Draft.resolveLink ((outline shape).unrelated modelTag)) =
      .ok (realizations shape) := by
    rw [mapM_eq_ok, links_outline, realizations, List.forall₂_map_left_iff, List.forall₂_map_right_iff,
      List.forall₂_same]
    rintro ⟨package, index⟩ member
    obtain ⟨inside, within⟩ := List.mem_product.mp member
    rw [List.mem_range] at inside within
    exact (resolveLink_eq_ok lookup_outline).mpr (.realization ((lookup_outline _ _).mp (lookup_entityKey inside within))
      ((lookup_outline _ _).mp (lookup_serviceKey inside)))
  rw [ofDocument_sampleDocument distinct]
  exact bind_eq_ok.mpr ⟨(), mentioned, bind_eq_ok.mpr ⟨_, related, by rw [unrelated_outline]; rfl⟩⟩

end Blueprint.Sample
