/-
Module: Blueprint.Proofs.Coverage
Purpose: Which classifiers are declared, and where. Generating the whole model writes one unit for each named
  classifier that packages lead to, and a unit declares its classifier with all that is nested in it. Over
  all units no classifier is declared twice: different units belong to classifiers of which none is below
  another one. A classifier is declared in a unit of its own, or directly in the declaration of the
  classifier that owns it, as long as everything above it is named and no declaration on the way leaves it
  out.
Main exports: Model.surrounding?, Model.Hides, Model.NothingHides, Model.IsShown, WritesUnit, WriteUnits,
  declaredIn, classifiers_declared_once
-/
import Blueprint.Proofs.Document.Containment
import Blueprint.Proofs.Layout
import Blueprint.Proofs.Php.Inventory

namespace Blueprint

open Output (Call Memory Performs Store Target joinPath pathOf)
open Php (Inventory NestsDirectly Options Takes declarationIn namespaceOf renderingIn)

variable {model : Model} {options : Options} {id owner child : ElementId} {names : List String}
  {makers : List (ElementId × List String)} {calls : List Call} {units : List (ElementId × Inventory)}

/-! ### Units -/

/-- The call writes a file, and does not create a directory. -/
def Output.Call.isWrite : Call → Bool
  | .createDirectory _ => false
  | .writeFile .. => true

/-- The call writes the unit of a classifier to its file, in the directory of the packages that lead to the
    classifier; and the text of the unit is put together from the declarations that the inventory lists. -/
inductive WritesUnit (model : Model) (options : Options) (id : ElementId) : Inventory → Call → Prop where
  | intro {names : List String} {fileName : String} {form : Php.Form} {subject : Php.Subject} {inside : Inventory}
      (stands : model.StandsIn Model.root id names) (called : Php.fileName? model options id = some fileName)
      (lists : Takes model .classForm [id] (.entry form subject inside .nil)) :
      WritesUnit model options id (.entry form subject inside .nil)
        (.writeFile (joinPath (pathOf names) fileName)
          ((Php.SourceUnit.start options.indent.unit (namespaceOf model id)).emit
            (declarationIn (renderingIn model options (namespaceOf model id)) subject
              (inside.fragment (renderingIn model options (namespaceOf model id))) form)).finish)

/-- The calls write the units of these elements, with these inventories. -/
def WriteUnits (model : Model) (options : Options) (units : List (ElementId × Inventory)) (calls : List Call) : Prop :=
  List.Forall₂ (fun unit call => WritesUnit model options unit.1 unit.2 call) units calls

/-- What is declared in units, each element with the one in whose declaration it stands; none for the element
    that a unit belongs to. -/
def declaredIn (units : List (ElementId × Inventory)) : List (Option ElementId × ElementId) :=
  units.flatMap fun unit => unit.2.declared none

theorem Makes.exists_unit (tree : model.IsTree) {call : Call} (stands : model.StandsIn Model.root id names)
    (makes : Makes model options id (pathOf names) call) (writes : call.isWrite = true) :
    ∃ inventory, WritesUnit model options id inventory call := by
  cases makes with
  | directory => cases writes
  | @file element kind classifier fileName unit found isClassifier named called rendered =>
      let rendering := renderingIn model options (namespaceOf model id)
      have known : (rendering.model.kind? id).isSome :=
        Option.isSome_of_eq_some (Model.kind?_eq_some_iff.mpr ⟨element, classifier, found, isClassifier⟩)
      have tree' : rendering.model.IsTree := tree
      obtain ⟨form, subject, inside, lists, declares⟩ := Php.exists_inventory tree' found named known
      rw [Php.unitOf?_eq rendered, declares]
      exact ⟨_, .intro stands called lists⟩

/-- The written units belong to the elements that make files, in the same order. -/
theorem Arranges.exists_units (tree : model.IsTree)
    (arranged : Arranges model options [Model.root] [] makers calls) :
    ∃ units : List (ElementId × Inventory),
      WriteUnits model options units (calls.filter Call.isWrite) ∧
      (units.map Prod.fst).Sublist (makers.map Prod.fst) ∧
      ∀ id place path text, (id, place) ∈ makers → Makes model options id (pathOf place) (.writeFile path text) →
        id ∈ units.map Prod.fst := by
  have stands : ∀ maker ∈ makers, model.StandsIn Model.root maker.1 maker.2 := fun _ => arranged.stands_of_mem
  have makes := arranged.makes
  clear arranged
  induction makes with
  | nil => exact ⟨[], .nil, .slnil, fun _ _ _ _ member => nomatch member⟩
  | @cons maker call makers calls here later ih =>
      obtain ⟨units, written, order, complete⟩ :=
        ih fun other member => stands other (List.mem_cons_of_mem _ member)
      cases writes : call.isWrite with
      | false =>
          refine ⟨units, ?_, order.cons _, ?_⟩
          · rw [List.filter_cons, writes]
            exact written
          · intro id place path text member makes
            rcases List.mem_cons.mp member with rfl | behind
            · rw [← makes.unique here] at writes
              cases writes
            · exact complete id place path text behind makes
      | true =>
          obtain ⟨inventory, unit⟩ := here.exists_unit tree (stands maker List.mem_cons_self) writes
          refine ⟨(maker.1, inventory) :: units, ?_, order.cons_cons _, ?_⟩
          · rw [List.filter_cons, writes]
            exact .cons unit written
          · intro id place path text member makes
            rcases List.mem_cons.mp member with rfl | behind
            · exact List.mem_cons_self
            · exact List.mem_cons_of_mem _ (complete id place path text behind makes)

/-! ### No classifier is declared twice -/

theorem WritesUnit.takes {inventory : Inventory} {call : Call}
    (written : WritesUnit model options id inventory call) : Takes model .classForm [id] inventory := by
  cases written with
  | intro stands called lists => exact lists

/-- A unit belongs to a classifier, with nothing but packages above it. -/
theorem WritesUnit.stands {inventory : Inventory} {call : Call}
    (written : WritesUnit model options id inventory call) :
    (∃ names, model.StandsIn Model.root id names) ∧ (model.kind? id).isSome := by
  cases written with
  | intro stands called lists =>
      cases lists with
      | omitted hidden later => cases later
      | entry nested =>
          obtain ⟨-, kind, -, known, -⟩ := Php.exists_subject_of_nestedForm? nested
          exact ⟨⟨_, stands⟩, Option.isSome_of_eq_some known⟩

/-- A unit declares the classifier that it belongs to. -/
theorem WritesUnit.mem_declared {inventory : Inventory} {call : Call}
    (written : WritesUnit model options id inventory call) : (none, id) ∈ inventory.declared none := by
  cases written with
  | intro stands called lists =>
      cases lists with
      | omitted hidden later => cases later
      | entry nested found =>
          rw [Inventory.declared, (Php.eq_of_find? found).1]
          exact List.mem_cons_self

theorem not_isPackage_of_kind? {element : Element} (found : model.element? id = some element)
    (classifier : (model.kind? id).isSome) : element.content.isPackage = false := by
  obtain ⟨kind, data, content⟩ := Model.exists_content_of_kind? found classifier
  rw [content]
  rfl

/-- No unit belongs to a classifier below the one that another unit belongs to. -/
theorem not_isBelow_of_standsIn (recorded : model.IsRecorded) {other : ElementId}
    (stands : model.StandsIn Model.root id names) (classifier : (model.kind? other).isSome) :
    ¬model.IsBelow id other := by
  intro below
  rcases stands.isPackage_of_isBelow recorded.isTree below with ⟨element, found, isPackage⟩ | above
  · rw [not_isPackage_of_kind? found classifier] at isPackage
    cases isPackage
  · exact Nat.not_lt_zero _ (recorded.lt_of_isBelow above)

/-- Over all units, no classifier is declared twice. -/
theorem nodup_declaredIn (recorded : model.IsRecorded)
    (written : WriteUnits model options units calls)
    (distinct : (units.map Prod.fst).Nodup) : ((declaredIn units).map Prod.snd).Nodup := by
  have tree := recorded.isTree
  have each : ∀ unit ∈ units, ∃ call, WritesUnit model options unit.1 unit.2 call := by
    intro unit member
    obtain ⟨call, -, written⟩ := exists_right_of_forall₂ written member
    exact ⟨call, written⟩
  have walked : ∀ unit ∈ units, ((unit.2.declared none).map Prod.snd).Sublist (model.walk unit.1) := by
    intro unit member
    obtain ⟨call, written⟩ := each unit member
    have order := written.takes.sublist_walk tree none
    rwa [List.flatMap_singleton] at order
  rw [declaredIn, List.map_flatMap, List.nodup_flatMap]
  refine ⟨fun unit member => (tree.nodup_walk unit.1).sublist (walked unit member), ?_⟩
  rw [List.nodup_iff_pairwise_ne, List.pairwise_map] at distinct
  apply distinct.imp_of_mem
  intro unit unit' member member' apart id listed listed'
  have above := tree.isBelow_of_mem_walkTo ((walked unit member).subset listed)
  have above' := tree.isBelow_of_mem_walkTo ((walked unit' member').subset listed')
  obtain ⟨call, written⟩ := each unit member
  obtain ⟨call', written'⟩ := each unit' member'
  obtain ⟨⟨names, stands⟩, classifier⟩ := written.stands
  obtain ⟨⟨names', stands'⟩, classifier'⟩ := written'.stands
  rcases Model.isBelow_total above above' with same | below | below
  · exact apart same
  · exact not_isBelow_of_standsIn recorded stands classifier' below
  · exact not_isBelow_of_standsIn recorded stands' classifier below

/-! ### What is shown and what is left out -/

/-- The classifier that owns an element; none for what a package or the model owns. -/
def Model.surrounding? (model : Model) (id : ElementId) : Option ElementId :=
  (model.parentOf? id).filter fun owner => (model.kind? owner).isSome

/-- What is left out of the declaration of a classifier: interfaces have no interfaces declared in them, and no
    classifier has packages. -/
inductive Model.Hides (model : Model) (owner child : ElementId) : Prop where
  | interface (outer : model.kind? owner = some .interface) (inner : model.kind? child = some .interface)
  | package {element : Element} (outer : (model.kind? owner).isSome) (found : model.element? child = some element)
      (isPackage : element.content.isPackage = true)

/-- Nothing on the way from the model down to the element is left out. -/
def Model.NothingHides (model : Model) (id : ElementId) : Prop :=
  ∀ child owner, id = child ∨ model.IsBelow id child → model.parentOf? child = some owner →
    ¬model.Hides owner child

/-- The element and all that is above it are named, nothing on the way down to it is left out, and nothing above
    it is an enumeration. -/
structure Model.IsShown (model : Model) (id : ElementId) : Prop where
  named : ∀ other, id = other ∨ model.IsBelow id other → model.nameOf other ≠ ""
  shown : model.NothingHides id
  plain : ∀ other, model.IsBelow id other → model.kind? other ≠ some .enumeration

theorem Model.IsShown.parent (shown : model.IsShown id) (parent : model.parentOf? id = some owner) :
    model.IsShown owner := by
  have onward : ∀ {other}, owner = other ∨ model.IsBelow owner other → model.IsBelow id other :=
    fun above => Model.isBelow_iff.mpr ⟨owner, parent, above⟩
  exact {
    named := fun other above => shown.named other (.inr (onward above))
    shown := fun child top above => shown.shown child top (.inr (onward above))
    plain := fun other above => shown.plain other (onward (.inr above)) }

theorem Model.IsShown.name_ne (shown : model.IsShown id) {element : Element}
    (found : model.element? id = some element) : element.name ≠ "" := by
  have named := shown.named id (.inl rfl)
  rwa [Model.nameOf, found, Option.map_some, Option.getD_some] at named

/-- In the declaration of a classifier stands what is not left out of it. -/
theorem nestsDirectly_of_isShown (shown : model.IsShown id) (parent : model.parentOf? id = some owner)
    (listed : id ∈ model.owned owner) {outer inner : ClassifierKind} (around : model.kind? owner = some outer)
    (known : model.kind? id = some inner) : NestsDirectly model owner id := by
  obtain ⟨element, found, content⟩ := Option.bind_eq_some_iff.mp known
  refine ⟨outer, .ofKind inner, around, listed, ?_, ?_⟩
  · intro enumForm
    exact shown.plain owner (.single parent) (around.trans (congrArg some (Php.ofKind_eq_enumForm.mp enumForm)))
  · rw [found, Option.bind_some, Php.nestedForm?_eq_some_iff]
    refine ⟨shown.name_ne found, inner, content, rfl, ?_⟩
    rw [Php.ofKind_eq_interfaceForm, Php.ofKind_eq_interfaceForm]
    rintro ⟨rfl, rfl⟩
    exact shown.shown id owner (.inl rfl) parent (.interface around known)

/-- What stands in the declaration of a classifier is not left out of it. -/
theorem not_hides_of_nestsDirectly (directly : NestsDirectly model owner child) : ¬model.Hides owner child := by
  obtain ⟨kind, form, outer, nests⟩ := directly
  obtain ⟨element, found, nested⟩ := Option.bind_eq_some_iff.mp nests.nested
  obtain ⟨-, inner, content, rfl, apart⟩ := Php.nestedForm?_eq_some_iff.mp nested
  have known : model.kind? child = some inner := Option.bind_eq_some_iff.mpr ⟨element, found, content⟩
  intro hides
  cases hides with
  | interface outer' inner' =>
      apply apart
      rw [Php.ofKind_eq_interfaceForm, Php.ofKind_eq_interfaceForm]
      exact ⟨Option.some.inj (outer.symm.trans outer'), Option.some.inj (known.symm.trans inner')⟩
  | package _ found' isPackage =>
      obtain rfl := Option.some.inj (found.symm.trans found')
      rw [not_isPackage_of_kind? found (Option.isSome_of_eq_some known)] at isPackage
      cases isPackage

/-- Only the model has no parent. -/
theorem eq_root (recorded : model.IsRecorded) {element : Element} (found : model.element? id = some element)
    (parent : model.parentOf? id = none) : id = Model.root := by
  rw [Model.parentOf?, found, Option.bind_some] at parent
  exact (recorded.parentless_iff id element found).mp parent

section Document

variable (recorded : model.IsRecorded) (hosted : model.IsHosted)

include recorded hosted

/-- The parent of an element is a package that lists it, or a classifier that does. -/
theorem parent_cases (parent : model.parentOf? child = some owner) : child ∈ model.owned owner ∧
    ∃ element, model.element? owner = some element ∧
      (element.content.isPackage = true ∨ ∃ kind, model.kind? owner = some kind) := by
  have able := hosted child owner parent
  have listed := (recorded.owned_iff owner child).mpr ⟨parent, able⟩
  obtain ⟨element, found⟩ := Option.isSome_iff_exists.mp (Model.isSome_of_owned listed)
  refine ⟨listed, element, found, ?_⟩
  cases content : element.content with
  | model | package => exact .inl rfl
  | classifier kind classifier =>
      exact .inr ⟨kind, Model.kind?_eq_some_iff.mpr ⟨element, classifier, found, content⟩⟩
  | useCase stereotype? =>
      rw [Model.isUseCase_iff.mpr ⟨element, stereotype?, found, content⟩] at able
      cases able

/-- Named packages lead to a package that is shown. The induction follows its parents up to the model: none of
    them is a classifier, since that would leave the package out. -/
theorem Model.IsShown.exists_standsIn (shown : model.IsShown id) {element : Element}
    (found : model.element? id = some element) (isPackage : element.content.isPackage = true) :
    ∃ names, model.StandsIn Model.root id names := by
  induction id using Nat.strongRecOn generalizing element with
  | ind id ih =>
      cases parent : model.parentOf? id with
      | none =>
          rw [eq_root recorded found parent]
          exact ⟨[], .itself⟩
      | some owner =>
          obtain ⟨listed, outer, found', package | ⟨kind, around⟩⟩ := parent_cases recorded hosted parent
          · obtain ⟨names, stands⟩ :=
              ih owner (recorded.parent_lt id owner parent) (shown.parent parent) found' package
            exact ⟨_, stands.concat found' package ((shown.parent parent).name_ne found') listed⟩
          · have hidden : model.Hides owner id := .package (Option.isSome_of_eq_some around) found isPackage
            exact absurd hidden (shown.shown id owner (.inl rfl) parent)

/-- A classifier that is shown is declared in a unit of its own, or in the declaration of the classifier that owns
    it. The induction follows the owners up to the first one in a package. -/
theorem Model.IsShown.mem_declaredIn (arranged : Arranges model options [Model.root] [] makers calls)
    (written : WriteUnits model options units (calls.filter Call.isWrite))
    (complete : ∀ id place path text, (id, place) ∈ makers →
      Makes model options id (pathOf place) (.writeFile path text) → id ∈ units.map Prod.fst)
    {kind : ClassifierKind} (known : model.kind? id = some kind) (shown : model.IsShown id) :
    (model.surrounding? id, id) ∈ declaredIn units := by
  have alone : ∀ {id names kind}, model.kind? id = some kind → model.IsShown id →
      model.StandsIn Model.root id names → (none, id) ∈ declaredIn units := by
    intro id names kind known shown stands
    obtain ⟨element, classifier, found, content⟩ := Model.kind?_eq_some_iff.mp known
    have named := shown.name_ne found
    obtain ⟨⟨fileName, called⟩, unit, rendered⟩ := @exists_file model options id _ _ _ found content named
    have makes : Makes model options id (pathOf names) _ := .file found content named called rendered
    have member := complete id names _ _ (arranged.mem_makers stands makes) makes
    obtain ⟨⟨other, inventory⟩, listed, rfl⟩ := List.mem_map.mp member
    obtain ⟨call, -, writes⟩ := exists_right_of_forall₂ written listed
    exact List.mem_flatMap.mpr ⟨_, listed, writes.mem_declared⟩
  induction id using Nat.strongRecOn generalizing kind with
  | ind id ih =>
      cases parent : model.parentOf? id with
      | none =>
          obtain ⟨element, found, -⟩ := Option.bind_eq_some_iff.mp known
          rw [Model.surrounding?, parent]
          obtain rfl := eq_root recorded found parent
          exact alone known shown .itself
      | some owner =>
          obtain ⟨listed, outer, found, package | ⟨kind', around⟩⟩ := parent_cases recorded hosted parent
          · have above := shown.parent parent
            obtain ⟨names, stands⟩ := above.exists_standsIn recorded hosted found package
            have outside : (model.kind? owner).isSome = false := by
              rw [Bool.eq_false_iff]
              intro classifier
              rw [not_isPackage_of_kind? found classifier] at package
              cases package
            rw [Model.surrounding?, parent, Option.filter_some, outside]
            exact alone known shown (stands.concat found package (above.name_ne found) listed)
          · have owned := ih owner (recorded.parent_lt id owner parent) around (shown.parent parent)
            obtain ⟨unit, inUnits, declared⟩ := List.mem_flatMap.mp owned
            obtain ⟨call, -, writes⟩ := exists_right_of_forall₂ written inUnits
            have directly := nestsDirectly_of_isShown shown parent listed around known
            rw [Model.surrounding?, parent, Option.filter_some, around]
            exact List.mem_flatMap.mpr
              ⟨unit, inUnits, writes.takes.mem_declared_of_nestsDirectly (List.mem_map_of_mem declared) directly⟩

end Document

/-- Nothing on the way down to what a unit declares is left out: above the classifier of the unit there are only
    packages, and a declaration holds nothing that is left out of it. -/
theorem nothingHides_of_mem_declaredIn (recorded : model.IsRecorded)
    (written : WriteUnits model options units calls)
    (declared : id ∈ (declaredIn units).map Prod.snd) : model.NothingHides id := by
  have tree := recorded.isTree
  obtain ⟨place, member, rfl⟩ := List.mem_map.mp declared
  obtain ⟨unit, inUnits, member⟩ := List.mem_flatMap.mp member
  obtain ⟨call, -, writes⟩ := exists_right_of_forall₂ written inUnits
  obtain ⟨⟨names, stands⟩, -⟩ := writes.stands
  have passes : ∀ owner child, model.NothingHides owner → NestsDirectly model owner child →
      model.NothingHides child := by
    intro owner child clear directly inner outer above parent
    have ⟨_, _, _, nests⟩ := directly
    have step := tree.parent_of_owned owner child nests.listed
    rcases above with rfl | above
    · obtain rfl := Option.some.inj (step.symm.trans parent)
      exact not_hides_of_nestsDirectly directly
    · obtain ⟨top, step', above⟩ := Model.isBelow_iff.mp above
      obtain rfl := Option.some.inj (step.symm.trans step')
      exact clear inner outer above parent
  have begins : model.NothingHides unit.1 := by
    intro child owner above parent hides
    have below : model.IsBelow unit.1 owner := by
      rcases above with rfl | above
      · exact .single parent
      · exact .tail above parent
    have classifier : (model.kind? owner).isSome := by
      cases hides with
      | interface outer inner => exact Option.isSome_of_eq_some outer
      | package outer found isPackage => exact outer
    exact not_isBelow_of_standsIn recorded stands classifier below
  refine writes.takes.declared_induction passes ?_ place member
  intro id listed inner nested
  rw [List.mem_singleton] at listed
  rwa [listed]

/-! ### Models of documents -/

/-- Where classifiers are declared. Let a model be read from a document. Whatever the store, generating the model
    performs calls from one list, and the files among these are units, each put together from the declarations
    of its inventory.

    * Over all units, no classifier is declared twice.
    * A classifier is declared exactly once if it and all that is above it are named, no interface on the way
      down to it is owned by an interface, no package by a classifier, and nothing by an enumeration. It is
      declared directly in the declaration of the classifier that owns it, and in a unit of its own if there
      is none.
    * An interface that an interface owns, a package that a classifier owns, and all that is below these, is
      declared nowhere. -/
theorem classifiers_declared_once {stream : Markup.Stream}
    (read : Document.readDocument (Document.Cursor.ofStream stream) = .ok model) (options : Options) :
    ∃ calls units,
      (∀ {σ : Type} (store : Store σ),
        Performs store (generateModel (Target.ofStore store) model options) calls) ∧
      WriteUnits model options units (calls.filter Call.isWrite) ∧
      ((declaredIn units).map Prod.snd).Nodup ∧
      (∀ id kind, model.kind? id = some kind → model.IsShown id →
        ((declaredIn units).map Prod.snd).count id = 1 ∧ (model.surrounding? id, id) ∈ declaredIn units) ∧
      ∀ id ∈ (declaredIn units).map Prod.snd, model.NothingHides id := by
  have recorded := Document.isRecorded_of_readDocument read
  have hosted := Document.isHosted_of_readDocument read
  have tree := recorded.isTree
  obtain ⟨makers, calls, arranged, performs⟩ := exists_arrangement tree options recorded.root_exists
  obtain ⟨units, written, order, complete⟩ := arranged.exists_units tree
  have distinct : (units.map Prod.fst).Nodup := by
    have walked := arranged.order
    rw [List.flatMap_singleton] at walked
    exact (tree.nodup_walk Model.root).sublist (order.trans walked)
  have once := nodup_declaredIn recorded written distinct
  refine ⟨calls, units, performs, written, once, ?_, ?_⟩
  · intro id kind known shown
    have declared := shown.mem_declaredIn recorded hosted arranged written complete known
    exact ⟨List.count_eq_one_of_mem once (List.mem_map_of_mem declared), declared⟩
  · intro id declared
    exact nothingHides_of_mem_declaredIn recorded written declared

/-- A document with an interface that owns an interface and a class. -/
def cabinetText : String :=
  "<model name='M'><interface name='Outer'><interface name='Inner'/><class name='Part'/></interface></model>"

/-- The model of that document. -/
def cabinet : Model where
  author? := none
  elements := #[
    { id := 0, name := "M", parent? := none, owned := [1], content := .model },
    { id := 1, name := "Outer", parent? := some 0, owned := [2, 3], content := .classifier .interface {} },
    { id := 2, name := "Inner", parent? := some 1, content := .classifier .interface {} },
    { id := 3, name := "Part", parent? := some 1, content := .classifier .classType {} }]
  relationships := []
  keys := []

theorem cabinet_read :
    Document.readDocument (Document.Cursor.ofStream (Markup.Stream.ofText cabinetText)) = .ok cabinet :=
  Document.eq_ok_of_toOption (by decide +kernel)

/-- Above what the interface owns are the interface and the model. -/
theorem cabinet_above {other : ElementId} (owned : cabinet.parentOf? id = some 1)
    (above : cabinet.IsBelow id other) : other = 1 ∨ other = 0 := by
  obtain ⟨parent, step, above⟩ := Model.isBelow_iff.mp above
  obtain rfl := Option.some.inj (step.symm.trans owned)
  rcases above with rfl | above
  · exact .inl rfl
  · obtain ⟨parent, step, above⟩ := Model.isBelow_iff.mp above
    cases step
    rcases above with rfl | above
    · exact .inr rfl
    · obtain ⟨parent, step, -⟩ := Model.isBelow_iff.mp above
      cases step

/-- The class is declared once, in the declaration of the interface. -/
theorem classifiers_declared_once_cabinet : ∃ (calls : List Call) (units : List (ElementId × Inventory)),
    Document.readDocument (Document.Cursor.ofStream (Markup.Stream.ofText cabinetText)) = .ok cabinet ∧
      (∀ {σ : Type} (store : Store σ), Performs store (generateModel (Target.ofStore store) cabinet {}) calls) ∧
      WriteUnits cabinet {} units (calls.filter Call.isWrite) ∧
      ((declaredIn units).map Prod.snd).count 3 = 1 ∧ (some 1, 3) ∈ declaredIn units := by
  have shown : cabinet.IsShown 3 := by
    constructor
    · rintro other (rfl | above)
      · decide
      · rcases cabinet_above rfl above with rfl | rfl <;> decide
    · rintro child owner (rfl | above) parent hides
      · cases parent
        cases hides with
        | interface outer inner => cases inner
        | package outer found isPackage => cases found; cases isPackage
      · rcases cabinet_above rfl above with rfl | rfl
        · cases parent
          cases hides with
          | interface outer inner => cases outer
          | package outer found isPackage => cases outer
        · cases parent
    · intro other above
      rcases cabinet_above rfl above with rfl | rfl <;> decide
  obtain ⟨calls, units, performs, written, -, declared, -⟩ := classifiers_declared_once cabinet_read {}
  obtain ⟨once, place⟩ := declared 3 .classType rfl shown
  exact ⟨calls, units, cabinet_read, performs, written, once, place⟩

/-- The interface inside the interface is named like everything above it, and yet no unit declares it, and the
    only file that is generated says nothing of it. -/
theorem inner_interface_left_out :
    Document.readDocument (Document.Cursor.ofStream (Markup.Stream.ofText cabinetText)) = .ok cabinet ∧
      cabinet.kind? 2 = some .interface ∧
      (∀ other, 2 = other ∨ cabinet.IsBelow 2 other → cabinet.nameOf other ≠ "") ∧
      (∀ (units : List (ElementId × Inventory)) (calls : List Call),
        WriteUnits cabinet {} units calls →
          ((declaredIn units).map Prod.snd).count 2 = 0) ∧
      ∃ memory notices,
        generateModel (Target.ofStore Memory.store) cabinet {} ⟨.empty, []⟩ = (.ok (), ⟨memory, notices⟩) ∧
        memory.files.entries.map (fun entry => (entry.path, entry.value)) = [("M/Outer.php",
          "<?php\n\ninterface Outer\n\x7b\n    class Part\n    \x7b\n\n        public function __construct()\n" ++
            "        \x7b\n        \x7d\n    \x7d\n\x7d\n")] := by
  refine ⟨cabinet_read, rfl, ?_, ?_, ?_⟩
  · rintro other (rfl | above)
    · decide
    · rcases cabinet_above rfl above with rfl | rfl <;> decide
  · intro units calls written
    have recorded := Document.isRecorded_of_readDocument cabinet_read
    rw [List.count_eq_zero]
    intro declared
    exact nothingHides_of_mem_declaredIn recorded written declared 2 1 (.inl rfl) rfl (.interface rfl rfl)
  · have run : (generateModel (Target.ofStore Memory.store) cabinet {} ⟨.empty, []⟩).1 = .ok () := by
      decide +kernel
    refine ⟨_, _, Prod.ext run rfl, ?_⟩
    decide +kernel

end Blueprint
