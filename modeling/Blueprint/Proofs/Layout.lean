/-
Module: Blueprint.Proofs.Layout
Purpose: Where things are put. From an element packages lead down to others; the names of these packages are
  the directory in which an element stands. The calls that generate an element are made for those elements,
  and for each of them for which there is anything to make, in the order in which a walk meets them, and the
  directory in which something is put has been created before.
Main exports: Call.path, Model.StandsIn, MakesBelow, Arranges, Arranges.of_plans, exists_arrangement,
  Arranges.mem_calls_iff
-/
import Blueprint.Proofs.Generation
import Blueprint.Proofs.Model.Walk
import Blueprint.Proofs.Output.Path
import Mathlib.Data.List.Forall2

namespace Blueprint

open Output (Call Performs Store Target joinPath pathOf)
open Php (Options)

/-- The path that is asked for. -/
def Output.Call.path : Call → String
  | .createDirectory path => path
  | .writeFile path _ => path

variable {model : Model} {options : Options} {base id : ElementId} {ids rest : List ElementId}
  {names : List String} {directory : String} {calls more : List Call}
  {makers others : List (ElementId × List String)}

/-- From the first element packages with these names lead down to the second one. -/
inductive Model.StandsIn (model : Model) : ElementId → ElementId → List String → Prop where
  | itself {id : ElementId} : StandsIn model id id []
  | inside {owner child id : ElementId} {element : Element} {names : List String}
      (found : model.element? owner = some element) (isPackage : element.content.isPackage = true)
      (named : element.name ≠ "") (listed : child ∈ model.owned owner)
      (within : StandsIn model child id names) : StandsIn model owner id (element.name :: names)

/-- The element stands below the base, and the call is made for it there. -/
def MakesBelow (model : Model) (options : Options) (base id : ElementId) (call : Call) : Prop :=
  ∃ names, model.StandsIn base id names ∧ Makes model options id (pathOf names) call

/-- Calls with the elements for which they are made, each with the names of its directory. The elements are
    those that the given ones, all in one directory, lead to and that make anything, in the order of the
    walk; and the directory of each has been created before, unless that is the given one. -/
structure Arranges (model : Model) (options : Options) (ids : List ElementId) (names : List String)
    (makers : List (ElementId × List String)) (calls : List Call) : Prop where
  makes : List.Forall₂ (fun maker call => Makes model options maker.1 (pathOf maker.2) call) makers calls
  order : (makers.map Prod.fst).Sublist (ids.flatMap model.walk)
  stands : ∀ id place, (id, place) ∈ makers →
    ∃ start ∈ ids, ∃ inner, place = names ++ inner ∧ model.StandsIn start id inner
  complete : ∀ start ∈ ids, ∀ id inner call, model.StandsIn start id inner →
    Makes model options id (pathOf (names ++ inner)) call → (id, names ++ inner) ∈ makers
  prepared : ∀ before call after, calls = before ++ call :: after →
    ∃ id place, (id, place) ∈ makers ∧ Makes model options id (pathOf place) call ∧
      (place = names ∨ .createDirectory (pathOf place) ∈ before)

/-! ### Directories of packages -/

/-- A named package makes the directory of its name. -/
theorem makes_directory {element : Element} (found : model.element? id = some element)
    (isPackage : element.content.isPackage = true) (named : element.name ≠ "") (names : List String) :
    Makes model options id (pathOf names) (.createDirectory (pathOf (names ++ [element.name]))) := by
  rw [Output.pathOf_concat]
  exact .directory found isPackage named

/-- The name of a package is the last one in the path of the directory that it makes. -/
theorem Makes.exists_element {path : String}
    (makes : Makes model options id (pathOf names) (.createDirectory path)) :
    ∃ element, model.element? id = some element ∧ element.content.isPackage = true ∧ element.name ≠ "" ∧
      path = pathOf (names ++ [element.name]) := by
  cases makes with
  | @directory element found isPackage named =>
      exact ⟨element, found, isPackage, named, (Output.pathOf_concat _ _).symm⟩

/-- The names of the directory in which an element stands are those of named packages. -/
theorem Model.StandsIn.exists_package {name : String} (stands : model.StandsIn base id names)
    (member : name ∈ names) :
    ∃ owner outer element, model.StandsIn base owner outer ∧ model.element? owner = some element ∧
      element.content.isPackage = true ∧ element.name ≠ "" ∧ element.name = name := by
  induction stands with
  | itself => cases member
  | @inside owner child id element names found isPackage named listed within ih =>
      rcases List.mem_cons.mp member with rfl | later
      · exact ⟨owner, [], element, .itself, found, isPackage, named, rfl⟩
      · obtain ⟨other, outer, inner, deeper, known⟩ := ih later
        exact ⟨other, _, inner, .inside found isPackage named listed deeper, known⟩

/-- Everything above an element and not above the base is a package. -/
theorem Model.StandsIn.isPackage_of_isBelow (tree : model.IsTree) (stands : model.StandsIn base id names)
    {other : ElementId} (below : model.IsBelow id other) :
    (∃ element, model.element? other = some element ∧ element.content.isPackage = true) ∨
      model.IsBelow base other := by
  induction stands with
  | itself => exact .inr below
  | @inside owner child id element names found isPackage named listed within ih =>
      rcases ih below with package | above
      · exact .inl package
      · obtain ⟨parent, step, above⟩ := Model.isBelow_iff.mp above
        obtain rfl := Option.some.inj (step.symm.trans (tree.parent_of_owned owner child listed))
        rcases above with rfl | above
        · exact .inl ⟨element, found, isPackage⟩
        · exact .inr above

/-- What a named package owns stands in the directory of the package. -/
theorem Model.StandsIn.concat {owner child : ElementId} {element : Element}
    (stands : model.StandsIn base owner names) (found : model.element? owner = some element)
    (isPackage : element.content.isPackage = true) (named : element.name ≠ "")
    (listed : child ∈ model.owned owner) : model.StandsIn base child (names ++ [element.name]) := by
  induction stands with
  | itself => exact .inside found isPackage named listed .itself
  | inside found' isPackage' named' listed' _ ih =>
      exact .inside found' isPackage' named' listed' (ih found listed)

/-- An element that makes no directory leads to nothing but itself. -/
theorem Model.StandsIn.eq_itself {other : ElementId} {inner : List String}
    (stands : model.StandsIn id other inner)
    (closed : ∀ path, ¬Makes model options id (pathOf names) (.createDirectory path)) :
    other = id ∧ inner = [] := by
  cases stands with
  | itself => exact ⟨rfl, rfl⟩
  | inside found isPackage named _ _ =>
      exact absurd (makes_directory found isPackage named names) (closed _)

theorem Makes.isSome {call : Call} (makes : Makes model options id directory call) :
    (model.element? id).isSome := by
  cases makes with
  | directory found => exact Option.isSome_of_eq_some found
  | file found => exact Option.isSome_of_eq_some found

/-- What an entry of the first list is related to stands in the second. -/
theorem exists_right_of_forall₂ {α β : Type} {relates : α → β → Prop} {items : List α} {results : List β}
    (related : List.Forall₂ relates items results) {item : α} (member : item ∈ items) :
    ∃ result ∈ results, relates item result := by
  induction related with
  | nil => cases member
  | cons first _ ih =>
      rcases List.mem_cons.mp member with rfl | later
      · exact ⟨_, List.mem_cons_self, first⟩
      · obtain ⟨result, member, relates⟩ := ih later
        exact ⟨result, List.mem_cons_of_mem _ member, relates⟩

namespace Arranges

/-! ### Plans are arrangements -/

theorem nil : Arranges model options [] names [] [] where
  makes := .nil
  order := .slnil
  stands _ _ member := nomatch member
  complete _ member := nomatch member
  prepared before call after split := by simp at split

/-- One arrangement after the other. -/
theorem append (first : Arranges model options ids names makers calls)
    (second : Arranges model options rest names others more) :
    Arranges model options (ids ++ rest) names (makers ++ others) (calls ++ more) where
  makes := List.rel_append first.makes second.makes
  order := by
    rw [List.map_append, List.flatMap_append]
    exact first.order.append second.order
  stands id place member := by
    rcases List.mem_append.mp member with earlier | later
    · obtain ⟨start, given, leads⟩ := first.stands id place earlier
      exact ⟨start, List.mem_append_left _ given, leads⟩
    · obtain ⟨start, given, leads⟩ := second.stands id place later
      exact ⟨start, List.mem_append_right _ given, leads⟩
  complete start given id inner call leads makes := by
    rcases List.mem_append.mp given with earlier | later
    · exact List.mem_append_left _ (first.complete start earlier id inner call leads makes)
    · exact List.mem_append_right _ (second.complete start later id inner call leads makes)
  prepared before call after split := by
    rcases split_append split with ⟨between, inFront, behind⟩ | ⟨remaining, inFront⟩
    · obtain ⟨id, place, member, makes, created⟩ := second.prepared between call after behind
      refine ⟨id, place, List.mem_append_right _ member, makes, created.imp_right ?_⟩
      rw [inFront]
      exact List.mem_append_right _
    · obtain ⟨id, place, member, makes, created⟩ := first.prepared before call remaining inFront
      exact ⟨id, place, List.mem_append_left _ member, makes, created⟩

/-- For an element without anything to make, nothing is arranged. -/
theorem nothing (silent : MakesNothing model id) (names : List String) :
    Arranges model options [id] names [] [] where
  makes := .nil
  order := List.nil_sublist _
  stands _ _ member := nomatch member
  complete start given other inner call leads makes := by
    rw [List.mem_singleton] at given
    subst given
    have closed : ∀ path, ¬Makes model options start (pathOf names) (.createDirectory path) :=
      fun _ creates => creates.not_nothing silent
    obtain ⟨rfl, rfl⟩ := leads.eq_itself closed
    exact absurd silent makes.not_nothing
  prepared before call after split := by simp at split

/-- A classifier makes its file. -/
theorem file (tree : model.IsTree) {path text : String}
    (makes : Makes model options id (pathOf names) (.writeFile path text)) :
    Arranges model options [id] names [(id, names)] [.writeFile path text] where
  makes := .cons makes .nil
  order := by
    rw [List.flatMap_singleton, tree.walk_eq makes.isSome]
    exact (List.nil_sublist _).cons_cons id
  stands other place member := by
    cases List.mem_singleton.mp member
    exact ⟨id, List.mem_singleton_self id, [], (List.append_nil _).symm, .itself⟩
  complete start given other inner call leads makes' := by
    rw [List.mem_singleton] at given
    subst given
    have closed : ∀ path, ¬Makes model options start (pathOf names) (.createDirectory path) :=
      fun _ creates => nomatch creates.unique makes
    obtain ⟨rfl, rfl⟩ := leads.eq_itself closed
    rw [List.append_nil]
    exact List.mem_singleton_self _
  prepared before call after split := by
    cases before with
    | nil =>
        cases split
        exact ⟨id, names, List.mem_singleton_self _, makes, .inl rfl⟩
    | cons => simp at split

/-- A package makes its directory, and then what it owns is arranged in that directory. -/
theorem package (tree : model.IsTree) {element : Element} (found : model.element? id = some element)
    (isPackage : element.content.isPackage = true) (named : element.name ≠ "")
    (within : Arranges model options (model.owned id) (names ++ [element.name]) makers calls) :
    Arranges model options [id] names ((id, names) :: makers)
      (.createDirectory (pathOf (names ++ [element.name])) :: calls) where
  makes := .cons (makes_directory found isPackage named names) within.makes
  order := by
    rw [List.flatMap_singleton, tree.walk_eq (Option.isSome_of_eq_some found)]
    exact within.order.cons_cons id
  stands other place member := by
    rcases List.mem_cons.mp member with same | deeper
    · cases same
      exact ⟨id, List.mem_singleton_self id, [], (List.append_nil _).symm, .itself⟩
    · obtain ⟨child, listed, inner, rfl, leads⟩ := within.stands other place deeper
      refine ⟨id, List.mem_singleton_self id, element.name :: inner, ?_, ?_⟩
      · rw [List.append_assoc, List.singleton_append]
      · exact .inside found isPackage named listed leads
  complete start given other inner call leads makes := by
    rw [List.mem_singleton] at given
    subst given
    cases leads with
    | itself =>
        rw [List.append_nil]
        exact List.mem_cons_self
    | @inside _ child _ owner inner found' _ _ listed leads =>
        obtain rfl := Option.some.inj (found.symm.trans found')
        have shape : names ++ element.name :: inner = names ++ [element.name] ++ inner := by
          rw [List.append_assoc, List.singleton_append]
        rw [shape] at makes ⊢
        exact List.mem_cons_of_mem _ (within.complete child listed other inner call leads makes)
  prepared before call after split := by
    cases before with
    | nil =>
        cases split
        exact ⟨id, names, List.mem_cons_self, makes_directory found isPackage named names, .inl rfl⟩
    | cons first before =>
        obtain ⟨same, split⟩ := List.cons.inj split
        obtain ⟨other, place, member, makes, created⟩ := within.prepared before call after split
        refine ⟨other, place, List.mem_cons_of_mem _ member, makes, .inr ?_⟩
        rcases created with rfl | earlier
        · rw [same]
          exact List.mem_cons_self
        · exact List.mem_cons_of_mem _ earlier

/-- The calls of a plan are arranged. -/
theorem of_plans (tree : model.IsTree) (plan : Plans model options ids directory calls)
    (place : directory = pathOf names) : ∃ makers, Arranges model options ids names makers calls := by
  induction plan generalizing names with
  | nil => exact ⟨[], .nil⟩
  | package makes within later ihWithin ihLater =>
      subst place
      obtain ⟨element, found, isPackage, named, path⟩ := makes.exists_element
      obtain ⟨inside, arranged⟩ := ihWithin path
      obtain ⟨others, after⟩ := ihLater rfl
      subst path
      exact ⟨_, (arranged.package tree found isPackage named).append after⟩
  | file makes later ih =>
      subst place
      obtain ⟨others, after⟩ := ih rfl
      exact ⟨_, (file tree makes).append after⟩
  | nothing silent later ih =>
      obtain ⟨others, after⟩ := ih place
      exact ⟨_, (nothing silent names).append after⟩

/-! ### Reading an arrangement -/

section Read

variable (arranged : Arranges model options [base] [] makers calls)

include arranged

theorem stands_of_mem (member : (id, names) ∈ makers) : model.StandsIn base id names := by
  obtain ⟨start, given, inner, same, leads⟩ := arranged.stands id names member
  rw [List.mem_singleton] at given
  subst given
  rwa [same]

/-- What makes a call and stands below the base is among the elements for which the calls are made. -/
theorem mem_makers {call : Call} (stands : model.StandsIn base id names)
    (makes : Makes model options id (pathOf names) call) : (id, names) ∈ makers :=
  arranged.complete base (List.mem_singleton_self base) id names call stands makes

/-- A call is made for an element that stands below the base, and each such call is made. -/
theorem mem_calls_iff {call : Call} : call ∈ calls ↔ ∃ id, MakesBelow model options base id call := by
  constructor
  · intro member
    obtain ⟨before, after, split⟩ := List.append_of_mem member
    obtain ⟨id, place, maker, makes, -⟩ := arranged.prepared before call after split
    exact ⟨id, place, arranged.stands_of_mem maker, makes⟩
  · rintro ⟨id, names, stands, makes⟩
    obtain ⟨made, member, makes'⟩ := exists_right_of_forall₂ arranged.makes (arranged.mem_makers stands makes)
    rwa [makes.unique makes']

end Read

end Arranges

/-- Generating from an element of a tree performs calls that are arranged, whatever the store makes of
    them. -/
theorem exists_arrangement (tree : model.IsTree) (options : Options) (known : (model.element? base).isSome) :
    ∃ makers calls, Arranges model options [base] [] makers calls ∧
      ∀ {σ : Type} (store : Store σ),
        Performs store (generate (Target.ofStore store) model options base) calls := by
  obtain ⟨calls, plan⟩ := exists_plans tree options [base] (by simpa using known) ""
  obtain ⟨makers, arranged⟩ := Arranges.of_plans tree plan Output.pathOf_nil.symm
  exact ⟨makers, calls, arranged, fun store => performs_generate tree known store plan⟩

end Blueprint
