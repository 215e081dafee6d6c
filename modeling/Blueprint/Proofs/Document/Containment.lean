/-
Module: Blueprint.Proofs.Document.Containment
Purpose: The two records of containment agree in every model that a document describes, as they do in every
  model that is put together by hand. A reader adds elements below the innermost container that is open;
  that is never a use case, so every element of a document is listed by its parent.
Main exports: Model.IsHosted, outline_of_readDocument, BuildsOn, IsOpen, buildsOn_build,
  containment_is_recorded_twice
-/
import Blueprint.Proofs.Document.Truncation
import Blueprint.Proofs.Model.Record

namespace Blueprint

/-- Every element that has a parent is listed by it: no parent is a use case. -/
def Model.IsHosted (model : Model) : Prop :=
  ∀ child parent, model.parentOf? child = some parent → model.isUseCase parent = false

namespace Document

open Blueprint.Markup (Stream)

/-! ### The outline of a document that is read -/

/-- A document that can be read is the layout of a tree, and the model is that of its outline. -/
theorem outline_of_readDocument {stream : Stream} {model : Model}
    (read : readDocument (Cursor.ofStream stream) = .ok model) :
    ∃ inside record outline, Forest.outline false [] inside = .ok outline ∧
      outline.model record = .ok model := by
  obtain ⟨draft, drafted, resolved⟩ := bind_eq_ok.mp read
  obtain ⟨isEmpty, tag, inside, document⟩ := document_of_readDraft drafted
  rw [readDocument_document document] at read
  obtain ⟨record, _, read⟩ := bind_eq_ok.mp read
  obtain ⟨outline, found, built⟩ := bind_eq_ok.mp read
  exact ⟨inside, record, outline, found, built⟩

/-- The model of an outline without its relationships is built by performing its declarations. -/
theorem unrelated_eq_build {outline : Outline} (valid : outline.Valid false []) (record : ModelTag) :
    ∃ lookup, outline.unrelated record =
      outline.build lookup (Model.named record.name record.author?) Model.root := by
  obtain ⟨-, settled⟩ := settled_opened valid record
  have landed : (opened record).Landed := by simp [Draft.Landed, opened]
  have known : Model.root < (opened record).model.nextId := Nat.zero_lt_one
  exact ⟨_, settled.symm.trans (settled_layInto _ outline landed known).2⟩

/-- The model of an outline has the elements that its declarations build. -/
theorem elements_of_model {outline : Outline} {record : ModelTag} {model : Model}
    (built : outline.model record = .ok model) : model.elements = (outline.unrelated record).elements := by
  obtain ⟨_, _, built⟩ := bind_eq_ok.mp built
  obtain ⟨relationships, _, built⟩ := bind_eq_ok.mp built
  cases built
  rfl

/-! ### Building keeps the records -/

theorem placement_onClassifier (change : Classifier → Classifier) (element : Element) :
    (onClassifier change element).placement = element.placement := by
  simp only [Element.placement, onClassifier, canOwn_mapClassifier]

/-- The second model is built on the first: its records agree, no parent is a use case, and it has the
    elements of the first with the same use cases among them. -/
structure BuildsOn (before after : Model) : Prop where
  recorded : after.IsRecorded
  hosted : after.IsHosted
  grown : before.nextId ≤ after.nextId
  useCases : ∀ id < before.nextId, after.isUseCase id = before.isUseCase id

/-- What reading below a container relies on: the records agree so far, no parent is a use case, and the
    container exists and is none, either. -/
structure IsOpen (model : Model) (container : ElementId) : Prop where
  recorded : model.IsRecorded
  hosted : model.IsHosted
  known : container < model.nextId
  host : model.isUseCase container = false

theorem BuildsOn.trans {first second third : Model} (before : BuildsOn first second)
    (after : BuildsOn second third) : BuildsOn first third where
  recorded := after.recorded
  hosted := after.hosted
  grown := Nat.le_trans before.grown after.grown
  useCases id known :=
    (after.useCases id (Nat.lt_of_lt_of_le known before.grown)).trans (before.useCases id known)

/-- A container stays open in what is built on its model. -/
theorem IsOpen.of_buildsOn {before after : Model} {container : ElementId} (opened : IsOpen before container)
    (built : BuildsOn before after) : IsOpen after container where
  recorded := built.recorded
  hosted := built.hosted
  known := Nat.lt_of_lt_of_le opened.known built.grown
  host := (built.useCases container opened.known).trans opened.host

section Steps

variable {model : Model} (recorded : model.IsRecorded) (hosted : model.IsHosted)

include recorded hosted

theorem buildsOn_of_placement {other : Model} (same : ∀ id, other.placement? id = model.placement? id)
    (size : other.nextId = model.nextId) : BuildsOn model other where
  recorded := recorded.of_placement same
  hosted := by
    intro child parent named
    rw [Model.parentOf?_eq, same, ← Model.parentOf?_eq] at named
    rw [Model.isUseCase_eq, same, ← Model.isUseCase_eq]
    exact hosted child parent named
  grown := Nat.le_of_eq size.symm
  useCases := by
    intro id _
    rw [Model.isUseCase_eq, same, ← Model.isUseCase_eq]

/-- Members and documentation are no part of the records. -/
theorem buildsOn_modify {change : Element → Element}
    (keeps : ∀ element, (change element).placement = element.placement) (parent : ElementId) :
    BuildsOn model (model.modify parent change) := by
  apply buildsOn_of_placement recorded hosted
  · intro id
    exact Model.placement?_modify keeps parent id
  · exact Model.nextId_modify model parent change

end Steps

section Open

variable {model : Model} {parent : ElementId} (opened : IsOpen model parent)

include opened

/-- An element may be added below an open container, whatever key it is given. -/
theorem buildsOn_add (name : String) (content : Content) (keys : List (String × ElementId)) :
    BuildsOn model (withKeys keys (model.add parent name content)) where
  recorded := (opened.recorded.add opened.known name content).of_placement fun _ => rfl
  hosted := by
    intro child named (hasParent : (model.add parent name content).parentOf? child = some named)
    show (model.add parent name content).isUseCase named = false
    rw [Model.parentOf?_add opened.known] at hasParent
    rw [Model.isUseCase_add opened.known]
    split at hasParent
    · cases hasParent
      rw [if_neg (Nat.ne_of_lt opened.known)]
      exact opened.host
    · have older := Nat.lt_trans (opened.recorded.parent_lt child named hasParent)
        (Model.lt_of_parentOf? hasParent)
      rw [if_neg (Nat.ne_of_lt older)]
      exact opened.hosted child named hasParent
  grown := by
    rw [nextId_placed]
    exact Nat.le_succ _
  useCases := by
    intro id old
    show (model.add parent name content).isUseCase id = _
    rw [Model.isUseCase_add opened.known, if_neg (Nat.ne_of_lt old)]

/-- A new element that is no use case is open. -/
theorem isOpen_add {content : Content} (canOwn : content.canOwn = true) (name : String)
    (keys : List (String × ElementId)) :
    IsOpen (withKeys keys (model.add parent name content)) model.nextId where
  recorded := (buildsOn_add opened name content keys).recorded
  hosted := (buildsOn_add opened name content keys).hosted
  known := by
    rw [nextId_placed]
    exact Nat.lt_succ_self _
  host := by
    have new := Model.isUseCase_add opened.known name content model.nextId
    rw [if_pos rfl, canOwn] at new
    exact new

/-- A member or a documentation goes into an open container and leaves it open for what follows. -/
theorem buildsOn_modify_then {change : Element → Element} {after : Model}
    (keeps : ∀ element, (change element).placement = element.placement)
    (following : IsOpen (model.modify parent change) parent →
      BuildsOn (model.modify parent change) after) : BuildsOn model after := by
  have changed := buildsOn_modify opened.recorded opened.hosted keeps parent
  exact changed.trans (following (opened.of_buildsOn changed))

end Open

/-- An outline builds on a model in which its container is open. -/
theorem buildsOn_build {lookup : String → Option ElementId} {outline : Outline} {inClassifier : Bool}
    {taken : List String} (valid : outline.Valid inClassifier taken) {model : Model} {parent : ElementId}
    (opened : IsOpen model parent) : BuildsOn model (outline.build lookup model parent) := by
  induction valid generalizing model parent with
  | nil =>
      apply buildsOn_of_placement opened.recorded opened.hosted
      · intro id
        rfl
      · rfl
  | @element _ _ entry inside rest fresh _ _ _ innerIH outerIH =>
      have added := buildsOn_add opened entry.name (entry.kind.resolved lookup)
        (entry.key?.toList.map (·, model.nextId) ++ model.keys)
      have within : BuildsOn model (inside.build lookup
          (withKeys (entry.key?.toList.map (·, model.nextId) ++ model.keys)
            (model.add parent entry.name (entry.kind.resolved lookup))) model.nextId) := by
        -- Nothing stands in a use case; any other new element is open for what stands in it.
        cases kind : entry.kind with
        | useCase stereotypeKey? =>
            have empty : inside = .nil := by simpa [Entry.Fresh, kind] using fresh
            subst empty
            rw [kind] at added
            exact added
        | package =>
            rw [kind] at added
            apply added.trans
            apply innerIH
            apply isOpen_add opened
            rfl
        | classifier sort data =>
            rw [kind] at added
            apply added.trans
            apply innerIH
            apply isOpen_add opened
            rfl
      exact within.trans (outerIH (opened.of_buildsOn within))
  | attr _ outerIH => exact buildsOn_modify_then opened (placement_onClassifier _) outerIH
  | operation _ outerIH => exact buildsOn_modify_then opened (placement_onClassifier _) outerIH
  | literal _ outerIH => exact buildsOn_modify_then opened (placement_onClassifier _) outerIH
  | documentation _ outerIH => exact buildsOn_modify_then opened (fun _ => by rfl) outerIH
  | link _ outerIH => exact outerIH opened

/-! ### Models of documents -/

section Read

variable {stream : Stream} {model : Model} (read : readDocument (Cursor.ofStream stream) = .ok model)

include read

theorem buildsOn_of_readDocument : ∃ name author?, BuildsOn (Model.named name author?) model := by
  obtain ⟨inside, record, outline, found, built⟩ := outline_of_readDocument read
  have valid := valid_outline found
  obtain ⟨lookup, same⟩ := unrelated_eq_build valid record
  refine ⟨record.name, record.author?, ?_⟩
  have start : IsOpen (Model.named record.name record.author?) Model.root := by
    refine ⟨Model.isRecorded_named record.name record.author?, ?_, Nat.zero_lt_one, rfl⟩
    intro child parent named
    cases child <;> cases named
  have whole : BuildsOn _ (outline.build lookup _ Model.root) := buildsOn_build valid start
  rw [← same] at whole
  apply whole.trans
  apply buildsOn_of_placement whole.recorded whole.hosted
  · intro id
    rw [Model.placement?, Model.element?, elements_of_model built]
    rfl
  · rw [Model.nextId, elements_of_model built]
    rfl

theorem isRecorded_of_readDocument : model.IsRecorded :=
  let ⟨_, _, built⟩ := buildsOn_of_readDocument read
  built.recorded

theorem isHosted_of_readDocument : model.IsHosted :=
  let ⟨_, _, built⟩ := buildsOn_of_readDocument read
  built.hosted

end Read

/-- In every model of a document, and in every model put together by adding elements below elements that
    exist, the two records of containment agree. So neither chains of parents nor chains of owned
    elements come back to where they began, and an element that is below no use case is reached from
    the model along exactly one path. In the model of a document nothing is below a use case. -/
theorem containment_is_recorded_twice {model : Model}
    (origin : model.Constructed ∨ ∃ stream, readDocument (Cursor.ofStream stream) = .ok model) :
    model.IsRecorded ∧
      (∀ owner, ∀ child ∈ model.owned owner, (model.owned owner).count child = 1) ∧
      (∀ id, ¬model.IsBelow id id) ∧
      (∀ id, ¬Relation.TransGen (fun owner child => child ∈ model.owned owner) id id) ∧
      (∀ id < model.nextId,
        (∀ ancestor, model.IsBelow id ancestor → model.isUseCase ancestor = false) →
          ∃! path, model.OwnedPath path id) ∧
      ∀ stream, readDocument (Cursor.ofStream stream) = .ok model → model.IsHosted := by
  have recorded : model.IsRecorded := by
    rcases origin with constructed | ⟨stream, read⟩
    · exact Model.isRecorded_of_constructed constructed
    · exact isRecorded_of_readDocument read
  refine ⟨recorded, ?_, recorded.not_isBelow_self, recorded.not_owned_chain_self, ?_, ?_⟩
  · intro owner child listed
    exact recorded.count_owned listed
  · intro id known clear
    exact recorded.existsUnique_ownedPath known clear
  · intro stream read
    exact isHosted_of_readDocument read

/-- An outcome that gives a value is that value. -/
theorem eq_ok_of_toOption {ε α : Type} {outcome : Except ε α} {value : α}
    (given : outcome.toOption = some value) : outcome = .ok value := by
  cases outcome <;> cases given
  rfl

/-- A gallery: a package with a class of rooms and the use case of a visit to one. -/
def galleryText : String :=
  "<model><package name='art'><class id='r'/><useCase stereotypeRef='r'/></package></model>"

/-- The gallery is read, and the use case knows the class by its key. -/
theorem gallery_read : ∃ model,
    readDocument (Cursor.ofStream (Stream.ofText galleryText)) = .ok model ∧ model.nextId = 4 ∧
      model.owned 1 = [2, 3] ∧ (model.element? 3).map Element.content = some (.useCase (some 2)) := by
  have parts : (readDocument (Cursor.ofStream (Stream.ofText galleryText))).toOption.map (fun model =>
        (model.nextId, model.owned 1, (model.element? 3).map Element.content)) =
      some (4, [2, 3], some (.useCase (some 2))) := by
    decide +kernel
  obtain ⟨model, read, parts⟩ := Option.map_eq_some_iff.mp parts
  simp only [Prod.mk.injEq] at parts
  exact ⟨model, eq_ok_of_toOption read, parts⟩

/-- In the gallery that is read the use case is reached along one path. In a gallery put together by hand
    the rooms below the use case name it as their parent without being listed. -/
theorem containment_of_gallery :
    (∃ model, readDocument (Cursor.ofStream (Stream.ofText galleryText)) = .ok model ∧
      model.owned 1 = [2, 3] ∧ model.IsRecorded ∧ ∃! path, model.OwnedPath path 3) ∧
    ∃ model, Model.Constructed model ∧ model.IsRecorded ∧ model.owned 0 = [1] ∧
      model.owned 1 = [] ∧ model.parentOf? 2 = some 1 := by
  constructor
  · obtain ⟨model, read, size, listed, -⟩ := gallery_read
    obtain ⟨recorded, -, -, -, paths, hosted⟩ := containment_is_recorded_twice (.inr ⟨_, read⟩)
    refine ⟨model, read, listed, recorded, paths 3 (by rw [size]; decide) ?_⟩
    intro ancestor below
    cases below with
    | single named => exact hosted _ read _ _ named
    | tail _ named => exact hosted _ read _ _ named
  · have built : Model.Constructed (((Model.named "art" none).add 0 "Visit" (.useCase none)).add 1 "Room"
        .package) :=
      .add (.add (.named "art" none) (by decide) "Visit" (.useCase none)) (by decide) "Room" .package
    exact ⟨_, built, (containment_is_recorded_twice (.inl built)).1, rfl, rfl, rfl⟩

end Document

end Blueprint
