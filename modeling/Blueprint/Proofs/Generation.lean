/-
Module: Blueprint.Proofs.Generation
Purpose: Generating sources is a plan carried out. What is to be generated from an element is told by the
  model alone: a named package makes its directory and then plans what it owns inside; a named
  classifier makes its file; everything else makes nothing. In a tree there is one plan for every
  element, and generating from the element performs the calls of the plan, whatever the store makes
  of them. A file is only written when the directory of the package that owns it has been created.
Main exports: Makes, Plans, plans_unique, exists_plans, Plans.prepared, performs_forM, performs_generate,
  generate_performs
-/
import Blueprint.Generation
import Blueprint.Output.Memory
import Blueprint.Proofs.Model.Containment
import Blueprint.Proofs.Output.Call

namespace Blueprint

open Output (Call Logged Memory OutputError Performs Store Target joinPath)
open Php (Options)

variable {σ : Type} {model : Model} {options : Options} {id : ElementId} {ids : List ElementId}
  {directory : String} {calls : List Call}

/-! ### Plans -/

/-- The call that is made for an element in a directory: the directory of a named package, or of the
    model, or the file of a named classifier. -/
inductive Makes (model : Model) (options : Options) (id : ElementId) (directory : String) :
    Call → Prop where
  | directory {element : Element} (found : model.element? id = some element)
      (isPackage : element.content.isPackage = true) (named : element.name ≠ "") :
      Makes model options id directory (.createDirectory (joinPath directory element.name))
  | file {element : Element} {kind : ClassifierKind} {classifier : Classifier} {fileName : String}
      {unit : Php.SourceUnit} (found : model.element? id = some element)
      (isClassifier : element.content = .classifier kind classifier) (named : element.name ≠ "")
      (called : Php.fileName? model options id = some fileName)
      (rendered : Php.unitOf? model options id = some unit) :
      Makes model options id directory (.writeFile (joinPath directory fileName) unit.finish)

/-- An element for which nothing is made: a use case, or an element without a name. -/
inductive MakesNothing (model : Model) (id : ElementId) : Prop where
  | useCase {element : Element} {stereotype? : Option ElementId}
      (found : model.element? id = some element) (isUseCase : element.content = .useCase stereotype?)
  | unnamed {element : Element} (found : model.element? id = some element) (nameless : element.name = "")

/-- The calls that are planned for elements in a directory, one element after the other. What a package
    owns is planned inside the directory of the package, right after the call for that directory. -/
inductive Plans (model : Model) (options : Options) : List ElementId → String → List Call → Prop where
  | nil {directory : String} : Plans model options [] directory []
  | package {id : ElementId} {rest : List ElementId} {directory path : String} {inside after : List Call}
      (makes : Makes model options id directory (.createDirectory path))
      (within : Plans model options (model.owned id) path inside)
      (later : Plans model options rest directory after) :
      Plans model options (id :: rest) directory (.createDirectory path :: (inside ++ after))
  | file {id : ElementId} {rest : List ElementId} {directory path text : String} {after : List Call}
      (makes : Makes model options id directory (.writeFile path text))
      (later : Plans model options rest directory after) :
      Plans model options (id :: rest) directory (.writeFile path text :: after)
  | nothing {id : ElementId} {rest : List ElementId} {directory : String} {after : List Call}
      (silent : MakesNothing model id) (later : Plans model options rest directory after) :
      Plans model options (id :: rest) directory after

/-- A named classifier has a file name and a unit. -/
theorem exists_file {element : Element} {kind : ClassifierKind} {classifier : Classifier}
    (found : model.element? id = some element)
    (isClassifier : element.content = .classifier kind classifier) (named : element.name ≠ "") :
    (∃ fileName, Php.fileName? model options id = some fileName) ∧
      ∃ unit, Php.unitOf? model options id = some unit := by
  have filled : element.name.isEmpty = false := by simpa using named
  constructor
  · simp [Php.fileName?, found, filled, isClassifier, Content.kind?]
  · simp [Php.unitOf?, Php.Subject.find?, found, filled, isClassifier, Content.classifier?]

/-- For every element something is made, or nothing. -/
theorem makes_or_nothing (model : Model) (options : Options) (directory : String)
    (known : (model.element? id).isSome) :
    (∃ call, Makes model options id directory call) ∨ MakesNothing model id := by
  obtain ⟨element, found⟩ := Option.isSome_iff_exists.mp known
  by_cases nameless : element.name = ""
  · exact .inr (.unnamed found nameless)
  · cases content : element.content with
    | model => exact .inl ⟨_, .directory found (by rw [content]; rfl) nameless⟩
    | package => exact .inl ⟨_, .directory found (by rw [content]; rfl) nameless⟩
    | useCase stereotype? => exact .inr (.useCase found content)
    | classifier kind classifier =>
        obtain ⟨⟨fileName, called⟩, unit, rendered⟩ :=
          @exists_file model options id element kind classifier found content nameless
        exact .inl ⟨_, .file found content nameless called rendered⟩

theorem Makes.unique {call other : Call} (first : Makes model options id directory call)
    (second : Makes model options id directory other) : call = other := by
  cases first with
  | directory found isPackage named =>
      cases second with
      | directory found' isPackage' named' =>
          obtain rfl := Option.some.inj (found.symm.trans found')
          rfl
      | file found' isClassifier' named' called' rendered' =>
          obtain rfl := Option.some.inj (found.symm.trans found')
          rw [isClassifier'] at isPackage
          cases isPackage
  | file found isClassifier named called rendered =>
      cases second with
      | directory found' isPackage' named' =>
          obtain rfl := Option.some.inj (found.symm.trans found')
          rw [isClassifier] at isPackage'
          cases isPackage'
      | file found' isClassifier' named' called' rendered' =>
          rw [called] at called'
          rw [rendered] at rendered'
          cases called'
          cases rendered'
          rfl

theorem Makes.not_nothing {call : Call} (makes : Makes model options id directory call) :
    ¬MakesNothing model id := by
  intro silent
  cases makes with
  | directory found isPackage named =>
      cases silent with
      | useCase found' isUseCase =>
          obtain rfl := Option.some.inj (found.symm.trans found')
          rw [isUseCase] at isPackage
          cases isPackage
      | unnamed found' nameless =>
          obtain rfl := Option.some.inj (found.symm.trans found')
          exact named nameless
  | file found isClassifier named called rendered =>
      cases silent with
      | useCase found' isUseCase =>
          obtain rfl := Option.some.inj (found.symm.trans found')
          rw [isClassifier] at isUseCase
          cases isUseCase
      | unnamed found' nameless =>
          obtain rfl := Option.some.inj (found.symm.trans found')
          exact named nameless

/-- What is planned for elements after others comes after what is planned for these. -/
theorem Plans.append {rest : List ElementId} {more : List Call} (first : Plans model options ids directory calls)
    (second : Plans model options rest directory more) :
    Plans model options (ids ++ rest) directory (calls ++ more) := by
  induction first with
  | nil => exact second
  | package makes within later _ ih =>
      rw [List.cons_append, List.cons_append, List.append_assoc]
      exact .package makes within (ih second)
  | file makes later ih => exact .file makes (ih second)
  | nothing silent later ih => exact .nothing silent (ih second)

/-- Plans for one element each make up a plan for all. -/
theorem Plans.flatMap {α : Type} {id : α → ElementId} {callsOf : α → List Call} {items : List α}
    (each : ∀ item ∈ items, Plans model options [id item] directory (callsOf item)) :
    Plans model options (items.map id) directory (items.flatMap callsOf) := by
  induction items with
  | nil => exact .nil
  | cons item items ih =>
      obtain ⟨first, others⟩ := List.forall_mem_cons.mp each
      exact first.append (ih others)

/-- There is no more than one plan. -/
theorem plans_unique {other : List Call} (plan : Plans model options ids directory calls)
    (second : Plans model options ids directory other) : calls = other := by
  induction plan generalizing other with
  | nil =>
      cases second
      rfl
  | package makes within later ihWithin ihLater =>
      cases second with
      | package makes' within' later' =>
          cases makes.unique makes'
          rw [ihWithin within', ihLater later']
      | file makes' later' => cases makes.unique makes'
      | nothing silent' later' => exact absurd silent' makes.not_nothing
  | file makes later ih =>
      cases second with
      | package makes' within' later' => cases makes.unique makes'
      | file makes' later' =>
          cases makes.unique makes'
          rw [ih later']
      | nothing silent' later' => exact absurd silent' makes.not_nothing
  | nothing silent later ih =>
      cases second with
      | package makes' within' later' => exact absurd silent makes'.not_nothing
      | file makes' later' => exact absurd silent makes'.not_nothing
      | nothing silent' later' => exact ih later'

/-- In a tree there is a plan for all elements. The descent into packages ends because fewer and fewer
    elements are below the elements that are reached. -/
theorem exists_plans (tree : model.IsTree) (options : Options) (ids : List ElementId)
    (known : ∀ id ∈ ids, (model.element? id).isSome) (directory : String) :
    ∃ calls, Plans model options ids directory calls := by
  suffices bounded : ∀ bound ids directory,
      (∀ id ∈ ids, (model.element? id).isSome ∧ (model.below id).card < bound) →
        ∃ calls, Plans model options ids directory calls from
    bounded model.elements.size ids directory fun id member =>
      ⟨known id member, tree.card_below_lt_size (known id member)⟩
  intro bound
  induction bound with
  | zero =>
      intro ids directory below
      cases ids with
      | nil => exact ⟨[], .nil⟩
      | cons id rest => exact absurd (below id List.mem_cons_self).2 (Nat.not_lt_zero _)
  | succ bound descend =>
      intro ids directory below
      induction ids with
      | nil => exact ⟨[], .nil⟩
      | cons id rest ih =>
          obtain ⟨after, later⟩ := ih fun id member => below id (List.mem_cons_of_mem _ member)
          obtain ⟨here, fewer⟩ := below id List.mem_cons_self
          rcases makes_or_nothing model options directory here with ⟨call, makes⟩ | silent
          · cases call with
            | createDirectory path =>
                have owned : ∀ child ∈ model.owned id,
                    (model.element? child).isSome ∧ (model.below child).card < bound := by
                  intro child member
                  have beneath := tree.card_below_lt_of_owned member
                  exact ⟨tree.isSome_of_owned member, by omega⟩
                obtain ⟨inside, within⟩ := descend (model.owned id) path owned
                exact ⟨_, .package makes within later⟩
            | writeFile path text => exact ⟨_, .file makes later⟩
          · exact ⟨after, .nothing silent later⟩

/-- A call stands in a list after the calls of another one, or among these. -/
theorem split_append {first second before after : List Call} {call : Call}
    (split : first ++ second = before ++ call :: after) :
    (∃ between, before = first ++ between ∧ second = between ++ call :: after) ∨
    ∃ remaining, first = before ++ call :: remaining := by
  rcases List.append_eq_append_iff.mp split with ⟨between, inFront, behind⟩ | ⟨tail, front, rest⟩
  · exact .inl ⟨between, inFront, behind⟩
  · cases tail with
    | nil => exact .inl ⟨[], by rw [front, List.append_nil, List.append_nil], rest.symm⟩
    | cons next remaining =>
        rw [List.cons_append] at rest
        cases rest
        exact .inr ⟨remaining, front⟩

/-- A call that earlier calls prepare: it is made for what a package owns, in the directory of the
    package, and one of the earlier calls creates this directory. -/
inductive Prepared (model : Model) (options : Options) (before : List Call) (call : Call) : Prop where
  | inside {owner child : ElementId} {outer path : String} (owned : child ∈ model.owned owner)
      (creates : Makes model options owner outer (.createDirectory path))
      (earlier : .createDirectory path ∈ before) (makes : Makes model options child path call)

theorem Prepared.mono {before longer : List Call} {call : Call}
    (prepared : Prepared model options before call) (more : before ⊆ longer) : Prepared model options longer call := by
  cases prepared with
  | inside owned creates earlier makes => exact .inside owned creates (more earlier) makes

/-- Every call of a plan is made for one of the planned elements, or prepared by the calls before it. -/
theorem Plans.prepared (plan : Plans model options ids directory calls) {before after : List Call}
    {call : Call} (split : calls = before ++ call :: after) :
    (∃ id ∈ ids, Makes model options id directory call) ∨ Prepared model options before call := by
  induction plan generalizing before after with
  | nil => simp at split
  | @package id rest directory path inside behind makes within later ihWithin ihLater =>
      cases before with
      | nil =>
          cases split
          exact .inl ⟨id, List.mem_cons_self, makes⟩
      | cons first before =>
          obtain ⟨same, tails⟩ := List.cons.inj split
          subst same
          rcases split_append tails with ⟨between, front, split⟩ | ⟨remaining, split⟩
          · rcases ihLater split with ⟨planned, member, made⟩ | prepared
            · exact .inl ⟨planned, List.mem_cons_of_mem _ member, made⟩
            · right
              apply prepared.mono
              rw [front]
              exact List.Subset.trans (List.subset_append_right _ _) (List.subset_cons_self _ _)
          · rcases ihWithin split with ⟨child, owned, made⟩ | prepared
            · exact .inr (.inside owned makes List.mem_cons_self made)
            · exact .inr (prepared.mono (List.subset_cons_self _ _))
  | @file id rest directory path text behind makes later ih =>
      cases before with
      | nil =>
          cases split
          exact .inl ⟨id, List.mem_cons_self, makes⟩
      | cons first before =>
          obtain ⟨-, tails⟩ := List.cons.inj split
          rcases ih tails with ⟨planned, member, made⟩ | prepared
          · exact .inl ⟨planned, List.mem_cons_of_mem _ member, made⟩
          · exact .inr (prepared.mono (List.subset_cons_self _ _))
  | nothing silent later ih =>
      rcases ih split with ⟨planned, member, made⟩ | prepared
      · exact .inl ⟨planned, List.mem_cons_of_mem _ member, made⟩
      · exact .inr prepared

/-! ### Carrying out a plan -/

theorem generateElement_directory (target : Target (StateM (Logged σ))) {path : String} (depth : Nat)
    (makes : Makes model options id directory (.createDirectory path)) :
    generateElement target model options (depth + 1) id directory =
      (target.createDirectory path >>= fun _ =>
        (model.owned id).forM fun child => generateElement target model options depth child path) := by
  cases makes with
  | @directory element found isPackage named =>
      have filled : element.name.isEmpty = false := by simpa using named
      have owned : model.owned id = element.owned := by rw [Model.owned, found]; rfl
      rw [owned]
      cases content : element.content with
      | model => simp only [generateElement, found, content, filled]; rfl
      | package => simp only [generateElement, found, content, filled]; rfl
      | classifier | useCase => simp [content, Content.isPackage] at isPackage

theorem performs_generateElement_file (store : Store σ) {path text : String} (depth : Nat)
    (makes : Makes model options id directory (.writeFile path text)) :
    Performs store (generateElement (Target.ofStore store) model options (depth + 1) id directory)
      [.writeFile path text] := by
  cases makes with
  | file found isClassifier named called rendered =>
      simp only [generateElement, found, isClassifier, generateFile, called, rendered]
      exact Output.performs_bind (Output.performs_report store _)
        (Output.performs_bind (Output.performs_writeFile store _ _) (Output.performs_report store _))

theorem performs_generateElement_nothing (store : Store σ) (options : Options) (depth : Nat)
    (directory : String) (silent : MakesNothing model id) :
    Performs store (generateElement (Target.ofStore store) model options (depth + 1) id directory)
      [] := by
  cases silent with
  | useCase found isUseCase =>
      simp only [generateElement, found, isUseCase]
      exact Output.performs_pure store
  | @unnamed element found nameless =>
      cases content : element.content with
      | model | package =>
          simp only [generateElement, found, content, nameless]
          exact Output.performs_report store _
      | useCase =>
          simp only [generateElement, found, content]
          exact Output.performs_pure store
      | classifier kind classifier =>
          have unnamed : Php.fileName? model options id = none := by
            simp [Php.fileName?, found, nameless]
          simp only [generateElement, found, content, generateFile, unnamed]
          exact Output.performs_report store _

/-- Where there is an element to descend to, the depth is not used up. -/
theorem exists_lower {rest : List ElementId} {depth : Nat}
    (deep : ∀ other ∈ id :: rest, (model.below other).card < depth) : ∃ lower, depth = lower + 1 :=
  Nat.exists_eq_succ_of_ne_zero (Nat.ne_zero_of_lt (deep id List.mem_cons_self))

/-- Generating performs the plan, as long as the depth goes beyond what is below the elements. -/
theorem performs_forM (tree : model.IsTree) (store : Store σ)
    (plan : Plans model options ids directory calls) {depth : Nat}
    (deep : ∀ id ∈ ids, (model.below id).card < depth) :
    Performs store
      (ids.forM fun id => generateElement (Target.ofStore store) model options depth id directory)
      calls := by
  induction plan generalizing depth with
  | nil => exact Output.performs_pure store
  | @package id rest directory path inside after makes within later ihWithin ihLater =>
      obtain ⟨lower, rfl⟩ := exists_lower deep
      have inner : ∀ child ∈ model.owned id, (model.below child).card < lower := by
        intro child member
        have beneath := tree.card_below_lt_of_owned member
        have here := deep id List.mem_cons_self
        omega
      have here : Performs store
          (generateElement (Target.ofStore store) model options (lower + 1) id directory)
          (.createDirectory path :: inside) := by
        rw [generateElement_directory (Target.ofStore store) lower makes]
        exact Output.performs_bind (Output.performs_createDirectory store path) (ihWithin inner)
      rw [List.forM]
      exact Output.performs_bind here (ihLater fun id member => deep id (List.mem_cons_of_mem _ member))
  | @file id rest directory path text after makes later ih =>
      obtain ⟨lower, rfl⟩ := exists_lower deep
      rw [List.forM]
      exact Output.performs_bind (performs_generateElement_file store lower makes)
        (ih fun id member => deep id (List.mem_cons_of_mem _ member))
  | @nothing id rest directory after silent later ih =>
      obtain ⟨lower, rfl⟩ := exists_lower deep
      rw [List.forM]
      exact Output.performs_bind (performs_generateElement_nothing store options lower directory silent)
        (ih fun id member => deep id (List.mem_cons_of_mem _ member))

/-- Generating from an element of a tree performs the plan for it. -/
theorem performs_generate (tree : model.IsTree) {base : ElementId} (known : (model.element? base).isSome)
    (store : Store σ) (plan : Plans model options [base] "" calls) :
    Performs store (generate (Target.ofStore store) model options base) calls := by
  have deep : ∀ id ∈ [base], (model.below id).card < model.elements.size := by
    intro id member
    rw [List.mem_singleton] at member
    subst member
    exact tree.card_below_lt_size known
  have performs := performs_forM tree store plan deep
  have present : (model.element? base).isNone = false := by simpa using known
  rw [List.forM, List.forM, bind_pure_unit] at performs
  rw [generate, present]
  exact performs

/-- Generation is a plan carried out. For an element of a tree there is one list of calls, planned from
    the model, the element and the options alone, in which every call but one for the element itself
    comes after the call that creates the directory of the package that owns what it is made for.
    Whatever the store, generating performs this list: either every call is accepted, and generating
    succeeds; or the calls before some call are accepted, that call is refused, and generating ends with
    its fault and in the state that it leaves. -/
theorem generate_performs (tree : model.IsTree) (options : Options) {base : ElementId}
    (known : (model.element? base).isSome) :
    ∃ calls, (∀ other, Plans model options [base] "" other ↔ other = calls) ∧
      (∀ before call after, calls = before ++ call :: after →
        Makes model options base "" call ∨ Prepared model options before call) ∧
      ∀ {σ : Type} (store : Store σ) (logged : Logged σ), ∃ outcome final notices,
        generate (Target.ofStore store) model options base logged = (outcome, ⟨final, notices⟩) ∧
        store.perform calls logged.state = (outcome, final) ∧
        (outcome = .ok () ∨ ∃ before call after reached fault, calls = before ++ call :: after ∧
          store.perform before logged.state = (.ok (), reached) ∧
          store.answer call reached = (.error fault, final) ∧ outcome = .error fault) := by
  obtain ⟨calls, plan⟩ := exists_plans tree options [base] (by simpa using known) ""
  refine ⟨calls, ?_, ?_, ?_⟩
  · intro other
    constructor
    · intro second
      exact plans_unique second plan
    · rintro rfl
      exact plan
  · intro before call after split
    rcases plan.prepared split with ⟨id, member, makes⟩ | prepared
    · rw [List.mem_singleton] at member
      subst member
      exact .inl makes
    · exact .inr prepared
  · intro σ store logged
    obtain ⟨notices, ran⟩ := performs_generate tree known store plan logged
    rcases performed : store.perform calls logged.state with ⟨outcome, final⟩
    rw [performed] at ran
    refine ⟨outcome, final, notices, ran, rfl, ?_⟩
    rcases store.perform_cases calls logged.state with ⟨reached, ended⟩ | refused
    · rw [performed] at ended
      cases ended
      exact .inl rfl
    · obtain ⟨before, call, after, reached, fault, left, split, whole, answered, ended⟩ := refused
      rw [performed] at ended
      cases ended
      exact .inr ⟨before, call, after, reached, fault, split, whole, answered, rfl⟩

/-- A shop with a class, a package without a name, and a use case. -/
def shop : Model where
  author? := none
  elements := #[
    { id := 0, name := "Shop", parent? := none, owned := [1, 2, 4], content := .model },
    { id := 1, name := "Order", parent? := some 0, content := .classifier .classType {} },
    { id := 2, name := "", parent? := some 0, owned := [3], content := .package },
    { id := 3, name := "Lost", parent? := some 2, content := .classifier .classType {} },
    { id := 4, name := "Buy", parent? := some 0, content := .useCase none }]
  relationships := []
  keys := []

/-- A store with room for one call more takes the directory and refuses the file. -/
theorem generate_performs_shop :
    shop.IsTree ∧ (shop.element? Model.root).isSome ∧ ∃ text,
      Plans shop {} [Model.root] "" [.createDirectory "Shop", .writeFile "Shop/Order.php" text] ∧
      ∃ notices, generate (Target.ofStore Memory.store.limited) shop {} Model.root ⟨(1, .empty), []⟩ =
        (.error (.generation "sink is full"),
          ⟨(0, Memory.empty.createDirectory "Shop"), notices⟩) := by
  have tree : shop.IsTree := by
    apply Model.isTree_of_ordered <;> decide +kernel
  have known : (shop.element? Model.root).isSome := by decide +kernel
  obtain ⟨unit, rendered⟩ : ∃ unit, Php.unitOf? shop {} 1 = some unit :=
    Option.isSome_iff_exists.mp (by decide +kernel)
  have directory : Makes shop {} Model.root "" (.createDirectory "Shop") := by
    have path : joinPath "" "Shop" = "Shop" := by decide +kernel
    have found : shop.element? Model.root = some shop.elements[0] := rfl
    rw [← path]
    exact .directory found rfl (by decide)
  have file : Makes shop {} 1 "Shop" (.writeFile "Shop/Order.php" unit.finish) := by
    have path : joinPath "Shop" "Order.php" = "Shop/Order.php" := by decide +kernel
    rw [← path]
    exact .file rfl rfl (by decide) (by decide +kernel) rendered
  have plan : Plans shop {} [Model.root] ""
      [.createDirectory "Shop", .writeFile "Shop/Order.php" unit.finish] :=
    .package directory (.file file (.nothing (.unnamed rfl rfl) (.nothing (.useCase rfl rfl) .nil))) .nil
  obtain ⟨calls, unique, -, run⟩ := generate_performs tree {} known
  obtain ⟨outcome, final, notices, ran, performed, -⟩ := run Memory.store.limited ⟨(1, .empty), []⟩
  rw [← (unique _).mp plan] at performed
  cases performed
  exact ⟨tree, known, unit.finish, plan, notices, ran⟩

end Blueprint
