/-
Module: Blueprint.Proofs.Locality
Purpose: Generating from the model of a document looks up elements of the document only, and ends. What is
  generated from an element depends on the elements that it leads to and on nothing else; in the model of a
  document all of these exist. The recursions over parents and over owned elements run along chains that
  are no longer than there are elements, so the depth that is allowed for them makes no difference.
Main exports: AnswersAlike, Model.AgreesOn.answersAlike, generateElement_stable,
  Model.AgreesOn.generate, EndsByItself, MissesNothing, generation_stays_inside
-/
import Blueprint.Generation
import Blueprint.Proofs.Document.Closure
import Blueprint.Proofs.Php.Rendering
import Blueprint.Proofs.Validation

namespace Blueprint

open Output (OutputError Target)
open Php (Form Options renderingIn)

/-! ### Queries -/

/-- The other model gives the same answers to all queries about an element, and the same file. -/
structure AnswersAlike (model other : Model) (id : ElementId) : Prop where
  namespaceOf : Php.namespaceOf other id = Php.namespaceOf model id
  qualifiedName : Php.qualifiedName other id = Php.qualifiedName model id
  relationshipsOf : other.relationshipsOf id = model.relationshipsOf id
  superclasses : Php.superclasses other id = Php.superclasses model id
  superinterfaces : Php.superinterfaces other id = Php.superinterfaces model id
  parentClass? : Php.parentClass? other id = Php.parentClass? model id
  interfacesOf : Php.interfacesOf other id = Php.interfacesOf model id
  traitsOf : Php.traitsOf other id = Php.traitsOf model id
  signatureTypes : Php.signatureTypes other id = Php.signatureTypes model id
  importsOf : ∀ namespaceName, Php.importsOf other id namespaceName = Php.importsOf model id namespaceName
  interfaceStubs : Php.interfaceStubs other id = Php.interfaceStubs model id
  abstractOverrides : Php.abstractOverrides other id = Php.abstractOverrides model id
  fileName? : ∀ options, Php.fileName? other options id = Php.fileName? model options id
  unitOf? : ∀ options, Php.unitOf? other options id = Php.unitOf? model options id

section Generate

variable {m : Type → Type} [Monad m] {region : ElementId → Prop} {model other : Model}

theorem Model.AgreesOn.answersAlike (agrees : Model.AgreesOn region model other) {id : ElementId}
    (inside : region id) : AnswersAlike model other id where
  namespaceOf := agrees.agreesFrom.namespaceOf inside
  qualifiedName := agrees.agreesFrom.qualifiedName inside
  relationshipsOf := by rw [Model.relationshipsOf, Model.relationshipsOf, agrees.relationships]
  superclasses := agrees.agreesFrom.superclasses inside
  superinterfaces := agrees.agreesFrom.superinterfaces inside
  parentClass? := agrees.agreesFrom.parentClass? inside
  interfacesOf := agrees.agreesFrom.interfacesOf inside
  traitsOf := agrees.agreesFrom.traitsOf inside
  signatureTypes := agrees.agreesFrom.signatureTypes inside
  importsOf := agrees.agreesFrom.importsOf inside
  interfaceStubs := agrees.agreesFrom.interfaceStubs inside
  abstractOverrides := agrees.agreesFrom.abstractOverrides inside
  fileName? options := agrees.agreesFrom.fileName? options inside
  unitOf? options := agrees.agreesFrom.unitOf? options inside

/-! ### Generation -/

theorem forM_congr {α : Type} {n : Type → Type} [Monad n] {items : List α} {first second : α → n Unit}
    (same : ∀ item ∈ items, first item = second item) : items.forM first = items.forM second := by
  induction items with
  | nil => rfl
  | cons item items ih =>
      rw [List.forM, List.forM, same item List.mem_cons_self,
        ih fun later member => same later (List.mem_cons_of_mem item member)]

theorem generateElement_unknown {target : Target m} {options : Options} {depth : Nat} {id : ElementId}
    {directory : String} (unknown : model.nextId ≤ id) :
    generateElement target model options depth id directory = pure () := by
  have absent : model.element? id = none := by
    simpa [Model.element?, Model.nextId] using unknown
  cases depth with
  | zero => rfl
  | succ depth => rw [generateElement, absent]

/-- What a package owns comes after it, so packages inside `id` lie no deeper than there are elements from
    `id` on, and the calls do not depend on the depth that is allowed beyond that. -/
theorem generateElement_stable (recorded : model.IsRecorded) (target : Target m) (options : Options)
    {depth more : Nat} {id : ElementId} (enough : model.nextId ≤ id + depth)
    (enough' : model.nextId ≤ id + more) (directory : String) :
    generateElement target model options depth id directory =
      generateElement target model options more id directory := by
  induction depth generalizing more id directory with
  | zero =>
      have unknown : model.nextId ≤ id := enough
      rw [generateElement_unknown unknown, generateElement_unknown unknown]
  | succ depth ih =>
      cases found : model.element? id with
      | none =>
          have unknown : model.nextId ≤ id := by
            simpa [Model.element?, Model.nextId] using found
          rw [generateElement_unknown unknown, generateElement_unknown unknown]
      | some element =>
          have known := Model.element?_isSome_iff.mp (Option.isSome_of_eq_some found)
          cases more with
          | zero => exact absurd known (Nat.not_lt.mpr enough')
          | succ more =>
              have nested : ∀ path, (element.owned.forM fun child =>
                    generateElement target model options depth child path) =
                  element.owned.forM fun child =>
                    generateElement target model options more child path := by
                intro path
                apply forM_congr
                intro child listed
                have below := (Model.mem_owned found).mpr listed
                exact ih (recorded.nextId_le_of_owned below enough)
                  (recorded.nextId_le_of_owned below enough') path
              rw [generateElement, generateElement, found]
              simp only [nested]

namespace Model.AgreesOn

variable (agrees : AgreesOn region model other)

include agrees

/-- To the same depth, the same is generated from an element of the region. -/
theorem generateElement (target : Target m) (options : Options) (depth : Nat) {id : ElementId}
    (inside : region id) (directory : String) :
    generateElement target other options depth id directory =
      generateElement target model options depth id directory := by
  induction depth generalizing id directory with
  | zero => rfl
  | succ depth ih =>
      rw [Blueprint.generateElement, Blueprint.generateElement, agrees.elements id inside]
      cases found : model.element? id with
      | none => rfl
      | some element =>
          have nested : ∀ path, (element.owned.forM fun child =>
                Blueprint.generateElement target other options depth child path) =
              element.owned.forM fun child =>
                Blueprint.generateElement target model options depth child path := by
            intro path
            apply forM_congr
            intro child listed
            exact ih (agrees.closed id child inside (.owned ((mem_owned found).mpr listed))) path
          simp only [nested, generateFile, agrees.agreesFrom.fileName? options inside,
            agrees.agreesFrom.unitOf? options inside]

/-- The same is generated from an element of the region, whatever the target does. -/
theorem generate (target : Target m) (options : Options) {base : ElementId} (inside : region base) :
    generate target other options base = generate target model options base := by
  have whole : Blueprint.generateElement target other options other.elements.size base "" =
      Blueprint.generateElement target model options model.elements.size base "" := by
    rw [agrees.generateElement target options _ inside]
    apply generateElement_stable agrees.recorded
    · exact Nat.le_trans agrees.grown (Nat.le_add_left _ _)
    · exact Nat.le_add_left _ _
  rw [Blueprint.generate, Blueprint.generate, agrees.elements base inside, whole]

end Model.AgreesOn

end Generate

/-! ### The recursions -/

/-- The recursions over parents and owned elements end by themselves. They follow chains that are no longer
    than there are elements; and what they give does not depend on the depth that is allowed for them,
    once it is the number of elements. -/
structure EndsByItself (model : Model) : Prop where
  parent_chain : ∀ chain : List ElementId, (∀ id ∈ chain, id < model.nextId) →
    chain.IsChain (fun child parent => model.parentOf? child = some parent) → chain.length ≤ model.nextId
  owned_chain : ∀ chain : List ElementId, (∀ id ∈ chain, id < model.nextId) →
    chain.IsChain (fun owner child => child ∈ model.owned owner) → chain.length ≤ model.nextId
  packagePath : ∀ depth ≥ model.nextId, ∀ id,
    model.packagePath id = model.packageNames depth (model.parentOf? id)
  declarations : ∀ depth ≥ model.nextId, ∀ (options : Options) namespaceName (form : Form) id,
    (renderingIn model options namespaceName).declareAs form id =
      (renderingIn model options namespaceName).declareNested depth form id
  generation : ∀ depth ≥ model.nextId, ∀ {m : Type → Type} [Monad m] (target : Target m) (options : Options)
    id directory, generateElement target model options model.nextId id directory =
      generateElement target model options depth id directory

theorem endsByItself_of_recorded {model : Model} (recorded : model.IsRecorded) : EndsByItself model where
  parent_chain _ := recorded.length_le_of_parent_chain
  owned_chain _ := recorded.length_le_of_owned_chain
  packagePath _ enough := recorded.isTree.packagePath_eq enough
  declarations depth enough options namespaceName form id :=
    (Php.declareNested_eq recorded.isTree enough form id).symm
  generation depth enough {_ _} target options id directory := by
    apply generateElement_stable recorded
    · exact Nat.le_add_left _ _
    · exact Nat.le_trans enough (Nat.le_add_left _ _)

/-! ### Models of documents -/

/-- A check that finds no element missing. -/
def MissesNothing (outcome : Except Violation Unit) : Prop :=
  ∀ id, outcome ≠ .error (.missingElement id)

/-- Generation stays inside a document and ends. Let a model be read from a document, and let `base` be one
    of its elements.

    * Every element that `base` leads to is one of the document, so that no look-up goes astray.
    * Nothing else is looked up: another model that agrees on these elements, on the relationships and on
      the author gives the same answers about each of them and generates the same from `base`, whatever it
      has in place of the other elements and behind them.
    * The recursions over parents and owned elements end by themselves.
    * Validation finds no element missing. -/
theorem generation_stays_inside {stream : Markup.Stream} {model : Model}
    (read : Document.readDocument (Document.Cursor.ofStream stream) = .ok model) {base : ElementId}
    (known : base < model.nextId) :
    (∀ id, model.Reaches base id → id < model.nextId) ∧
      (∀ other : Model, other.author? = model.author? → other.relationships = model.relationships →
        (∀ id, model.Reaches base id → other.element? id = model.element? id) →
        model.nextId ≤ other.nextId →
        (∀ id, model.Reaches base id → AnswersAlike model other id) ∧
          ∀ {m : Type → Type} [Monad m] (target : Target m) (options : Options),
            generate target other options base = generate target model options base) ∧
      EndsByItself model ∧ MissesNothing model.validate := by
  have recorded := Document.isRecorded_of_readDocument read
  refine ⟨?_, ?_, endsByItself_of_recorded recorded, ?_⟩
  · intro id reaches
    exact Document.lt_of_reaches read known reaches
  · intro other author relationships elements grown
    have agrees : Model.AgreesOn (model.Reaches base) model other := {
      recorded, author, relationships, elements, grown
      closed := fun _ _ reaches mentions => .tail reaches mentions }
    constructor
    · intro id reaches
      exact agrees.answersAlike reaches
    · intro m _ target options
      exact agrees.generate target options .refl
  · exact validate_ne_missingElement read

/-- From the package of the gallery a visit is reached, and from there the rooms. Whatever element is put
    behind those of the gallery, nothing else is generated for the package, by any target. -/
theorem generation_of_gallery : ∃ model,
    Document.readDocument (Document.Cursor.ofStream (Markup.Stream.ofText Document.galleryText)) =
      .ok model ∧ model.Mentions 1 3 ∧ model.Mentions 3 2 ∧ 2 < model.nextId ∧
      MissesNothing model.validate ∧
      ∀ stray, AnswersAlike model { model with elements := model.elements.push stray } 1 ∧
        ∀ {m : Type → Type} [Monad m] (target : Target m) (options : Options),
          generate target { model with elements := model.elements.push stray } options 1 =
            generate target model options 1 := by
  obtain ⟨model, read, size, listed, visit⟩ := Document.gallery_read
  obtain ⟨element, place, content⟩ := Option.map_eq_some_iff.mp visit
  have known : 1 < model.nextId := by
    rw [size]
    decide
  obtain ⟨inside, alike, -, valid⟩ := generation_stays_inside read known
  have first : model.Mentions 1 3 := by
    apply Model.Mentions.owned
    rw [listed]
    decide
  have second : model.Mentions 3 2 := .stereotype place content
  refine ⟨model, read, first, second, inside 2 (.tail (.single first) second), valid, ?_⟩
  intro stray
  have kept : ∀ id, model.Reaches 1 id →
      Model.element? { model with elements := model.elements.push stray } id = model.element? id := by
    intro id reached
    have before : id ≠ model.elements.size := Nat.ne_of_lt (inside id reached)
    simp only [Model.element?, Array.getElem?_push, before, if_false]
  have grown : model.nextId ≤ Model.nextId { model with elements := model.elements.push stray } := by
    simp [Model.nextId]
  obtain ⟨answers, generates⟩ :=
    alike { model with elements := model.elements.push stray } rfl rfl kept grown
  exact ⟨answers 1 .refl, generates⟩

end Blueprint
