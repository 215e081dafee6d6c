/-
Module: Blueprint.Proofs.Document.Tolerance
Purpose: Attributes that cannot be read do not count. A document in which every tag is mended, so that all its
  attributes can be read, is accepted exactly when the document itself is, and describes the same model. So an
  attribute without an equals sign, without a value or without quotation marks is passed over as if it were
  absent, and so is one that is given again; no document is rejected for it.
Main exports: Event.mended, Stream.mended, Forest.mended, outline_mended, ModelDocument.mended,
  document_of_mended, readDocument_mended, faulty_attributes_are_passed_over
-/
import Blueprint.Proofs.Document.Containment
import Blueprint.Proofs.Document.Truncation
import Blueprint.Proofs.Markup.Attribute

namespace Blueprint

/-! ### Mending documents -/

/-- The event with its tag mended, if it has one. -/
def Markup.Event.mended : Event → Event
  | start tag => start tag.mended
  | empty tag => empty tag.mended
  | event => event

/-- The stream with all tags mended. -/
def Markup.Stream.mended (stream : Stream) : Stream :=
  ⟨stream.events.map Event.mended, stream.ending⟩

namespace Document

open Markup (Event Stream Tag)

/-- The forest with all tags mended. -/
def Forest.mended : Forest → Forest
  | nil => nil
  | element tag inside closing rest => element tag.mended inside.mended closing rest.mended
  | empty tag rest => empty tag.mended rest.mended
  | leaf piece rest => leaf piece rest.mended

variable {events before after : List Event} {event : Event} {tag : Tag} {isEmpty : Bool} {inside : Forest}

/-! ### Tags -/

theorem tagValues_mended (tag : Tag) : tagValues tag.mended = tagValues tag := by
  rw [tagValues, tagValues, Markup.soundAttributes_mended]

/-- Whatever the values of a tag make is the same after mending. -/
theorem gather_mended {α : Type} (initial : α) (take : α → String → String → Except DocumentFault α)
    (tag : Tag) : gather initial take tag.mended = gather initial take tag := by
  rw [gather, gather, tagValues_mended]

@[simp]
theorem name_mended (tag : Tag) : tag.mended.name = tag.name := rfl

/-! ### Trees -/

theorem leaves_mended (forest : Forest) : forest.mended.leaves = forest.leaves := by
  induction forest with
  | nil => rfl
  | element tag inside closing rest insideIH restIH => simp only [Forest.mended, Forest.leaves, insideIH, restIH]
  | empty tag rest restIH => exact restIH
  | leaf piece rest restIH => simp only [Forest.mended, Forest.leaves, restIH]

@[simp]
theorem text_mended (forest : Forest) : forest.mended.text = forest.text := by
  rw [Forest.text, Forest.text, leaves_mended]

@[simp]
theorem documentation_mended (forest : Forest) (found : String) :
    forest.mended.documentation found = forest.documentation found := by
  induction forest generalizing found with
  | nil => rfl
  | element tag inside closing rest _ restIH => simp [Forest.mended, Forest.documentation, restIH]
  | empty tag rest restIH => exact restIH found
  | leaf piece rest restIH => exact restIH found

@[simp]
theorem attributeOf_mended (tag : Tag) (inside : Forest) :
    attributeOf tag.mended inside.mended = attributeOf tag inside := by
  simp [attributeOf, AttributeTag.read, gather_mended]

@[simp]
theorem parameterOf_mended (tag : Tag) (inside : Forest) :
    parameterOf tag.mended inside.mended = parameterOf tag inside := by
  simp [parameterOf, ParameterTag.read, gather_mended]

@[simp]
theorem literalOf_mended (tag : Tag) (inside : Forest) :
    literalOf tag.mended inside.mended = literalOf tag inside := by
  simp [literalOf, readLiteralTag, gather_mended]

@[simp]
theorem endOf_mended (tag : Tag) (inside : Forest) : endOf tag.mended inside.mended = endOf tag inside := by
  simp [endOf, EndTag.read, gather_mended]

@[simp]
theorem linkOf_mended (tag : Tag) : linkOf tag.mended = linkOf tag := by
  simp [linkOf, DirectedTag.read, gather_mended]

@[simp]
theorem operationWith_mended (record : OperationRecord) (tag : Tag) (isEmpty : Bool) (inside : Forest) :
    operationWith record tag.mended isEmpty inside.mended = operationWith record tag isEmpty inside := by
  simp [operationWith]

@[simp]
theorem operation_mended (forest : Forest) (record : OperationRecord) :
    forest.mended.operation record = forest.operation record := by
  induction forest generalizing record with
  | nil => rfl
  | element tag inside closing rest _ restIH => simp [Forest.mended, Forest.operation, restIH]
  | empty tag rest restIH =>
      have hollow := operationWith_mended record tag true .nil
      simp only [Forest.mended] at hollow
      simp [Forest.mended, Forest.operation, hollow, restIH]
  | leaf piece rest restIH => exact restIH record

@[simp]
theorem ends_mended (forest : Forest) : forest.mended.ends = forest.ends := by
  induction forest with
  | nil => rfl
  | element tag inside closing rest _ restIH => simp [Forest.mended, Forest.ends, restIH]
  | empty tag rest restIH =>
      have hollow := endOf_mended tag .nil
      simp only [Forest.mended] at hollow
      simp [Forest.mended, Forest.ends, hollow, restIH]
  | leaf piece rest restIH => exact restIH

/-- What an element declares is the same after mending. -/
theorem declaring_mended (inClassifier : Bool) (taken : List String) (tag : Tag) (isEmpty : Bool) (inside : Forest)
    (within : Bool → List String → Except DocumentFault Outline)
    (following : List String → Except DocumentFault Outline) :
    declaring inClassifier taken tag.mended isEmpty inside.mended within following =
      declaring inClassifier taken tag isEmpty inside within following := by
  simp only [declaring, PackageTag.read, ClassifierTag.read, UseCaseTag.read, readOperationTag, gather_mended,
    name_mended, attributeOf_mended, operation_mended, literalOf_mended, linkOf_mended, ends_mended, text_mended]

/-- Mending a tree does not change its outline. -/
theorem outline_mended (forest : Forest) (inClassifier : Bool) (taken : List String) :
    forest.mended.outline inClassifier taken = forest.outline inClassifier taken := by
  induction forest generalizing inClassifier taken with
  | nil => rfl
  | element tag inside closing rest insideIH restIH =>
      simp only [Forest.mended, Forest.outline, declaring_mended, insideIH, restIH]
  | empty tag rest restIH =>
      have hollow := declaring_mended inClassifier taken tag true .nil
      simp only [Forest.mended] at hollow
      simp only [Forest.mended, Forest.outline, hollow, restIH]
  | leaf piece rest restIH => exact restIH inClassifier taken

theorem modelOf_mended (tag : Tag) (inside : Forest) : modelOf tag.mended inside.mended = modelOf tag inside := by
  simp only [modelOf, ModelTag.read, gather_mended, outline_mended]

/-! ### Documents -/

theorem event_mended (piece : Leaf) : piece.event.mended = piece.event := by
  cases piece <;> rfl

/-- The layout of a mended tree is the mended layout. -/
theorem events_mended (forest : Forest) : forest.mended.events = forest.events.map Event.mended := by
  induction forest with
  | nil => rfl
  | element tag inside closing rest insideIH restIH =>
      simp only [Forest.mended, Forest.events, insideIH, restIH, List.map_cons, List.map_append, Event.mended]
  | empty tag rest restIH => simp only [Forest.mended, Forest.events, restIH, List.map_cons, Event.mended]
  | leaf piece rest restIH => simp only [Forest.mended, Forest.events, restIH, List.map_cons, event_mended]

theorem opening?_mended (event : Event) :
    opening? event.mended = (opening? event).map fun (tag, isEmpty) => (tag.mended, isEmpty) := by
  cases event <;> rfl

theorem noneOpens_mended {name : String} : NoneOpens name (events.map Event.mended) ↔ NoneOpens name events := by
  simp only [NoneOpens, List.forall_mem_map, opening?_mended, Option.map_eq_some_iff, Prod.mk.injEq, Prod.exists]
  constructor
  · intro none event member tag isEmpty opens
    exact none event member tag.mended isEmpty ⟨tag, isEmpty, opens, rfl, rfl⟩
  · rintro none event member _ _ ⟨tag, isEmpty, opens, rfl, rfl⟩
    exact none event member tag isEmpty opens

/-- A mended document holds the mended model. -/
theorem ModelDocument.mended (document : ModelDocument events isEmpty tag inside) :
    ModelDocument (events.map Event.mended) isEmpty tag.mended inside.mended := by
  cases document with
  | filled named first =>
      simp only [List.map_append, List.map_cons, Event.mended, ← events_mended]
      exact .filled named (noneOpens_mended.mpr first)
  | hollow named first =>
      simp only [List.map_append, List.map_cons, Event.mended]
      exact .hollow named (noneOpens_mended.mpr first)

theorem eq_start_of_mended (same : event.mended = .start tag) : ∃ unmended, event = .start unmended := by
  cases event <;> cases same
  exact ⟨_, rfl⟩

theorem eq_empty_of_mended (same : event.mended = .empty tag) : ∃ unmended, event = .empty unmended := by
  cases event <;> cases same
  exact ⟨_, rfl⟩

theorem eq_finish_of_mended {name : String} (same : event.mended = .finish name) : event = .finish name := by
  cases event <;> cases same
  rfl

theorem eq_leaf_of_mended {piece : Leaf} (same : event.mended = piece.event) : event = piece.event := by
  cases event <;> cases piece <;> cases same <;> rfl

/-- Events that are the layout of a tree up to an end tag after mending are so before. -/
theorem finished_of_mended {forest : Forest} {closing : String}
    (same : events.map Event.mended = forest.events ++ .finish closing :: after) :
    ∃ unmended behind, events = Forest.events unmended ++ .finish closing :: behind ∧
      behind.map Event.mended = after := by
  induction forest generalizing events closing after with
  | nil =>
      obtain ⟨event, behind, rfl, finishes, later⟩ := List.map_eq_cons_iff.mp same
      exact ⟨.nil, behind, by rw [eq_finish_of_mended finishes]; rfl, later⟩
  | element tag inside inner rest insideIH restIH =>
      rw [Forest.events_element_append] at same
      obtain ⟨event, events, rfl, starts, held⟩ := List.map_eq_cons_iff.mp same
      obtain ⟨tag, rfl⟩ := eq_start_of_mended starts
      obtain ⟨inside, events, rfl, following⟩ := insideIH held
      obtain ⟨rest, behind, rfl, later⟩ := restIH following
      exact ⟨.element tag inside inner rest, behind, (Forest.events_element_append ..).symm, later⟩
  | empty tag rest restIH =>
      obtain ⟨event, events, rfl, opens, following⟩ := List.map_eq_cons_iff.mp same
      obtain ⟨tag, rfl⟩ := eq_empty_of_mended opens
      obtain ⟨rest, behind, rfl, later⟩ := restIH following
      exact ⟨.empty tag rest, behind, rfl, later⟩
  | leaf piece rest restIH =>
      obtain ⟨event, events, rfl, shown, following⟩ := List.map_eq_cons_iff.mp same
      obtain ⟨rest, behind, rfl, later⟩ := restIH following
      exact ⟨.leaf piece rest, behind, by rw [eq_leaf_of_mended shown]; rfl, later⟩

/-- A document that holds a model after mending holds one before. -/
theorem document_of_mended (document : ModelDocument (events.map Event.mended) isEmpty tag inside) :
    ∃ unmended within, ModelDocument events isEmpty unmended within := by
  generalize mends : events.map Event.mended = mended at document
  cases document with
  | filled named first =>
      obtain ⟨before, events, rfl, rfl, same⟩ := List.map_eq_append_iff.mp mends
      obtain ⟨event, events, rfl, starts, held⟩ := List.map_eq_cons_iff.mp same
      obtain ⟨unmended, rfl⟩ := eq_start_of_mended starts
      obtain ⟨within, behind, rfl, _⟩ := finished_of_mended held
      cases starts
      exact ⟨unmended, within, .filled named (noneOpens_mended.mp first)⟩
  | hollow named first =>
      obtain ⟨before, events, rfl, rfl, same⟩ := List.map_eq_append_iff.mp mends
      obtain ⟨event, events, rfl, opens, _⟩ := List.map_eq_cons_iff.mp same
      obtain ⟨unmended, rfl⟩ := eq_empty_of_mended opens
      cases opens
      exact ⟨unmended, .nil, .hollow named (noneOpens_mended.mp first)⟩

/-! ### Reading -/

/-- A document that holds a model is read as it would be after mending. -/
theorem readDocument_mended {stream : Stream} (document : ModelDocument stream.events isEmpty tag inside) :
    readDocument (Cursor.ofStream stream.mended) = readDocument (Cursor.ofStream stream) := by
  have after : ModelDocument stream.mended.events isEmpty tag.mended inside.mended := document.mended
  rw [readDocument_document after, readDocument_document document, modelOf_mended]

/-- A document that is accepted holds a model that ends. -/
theorem document_of_readDocument {stream : Stream} {model : Model}
    (accepts : readDocument (Cursor.ofStream stream) = .ok model) :
    ∃ isEmpty tag inside, ModelDocument stream.events isEmpty tag inside := by
  rw [readDocument] at accepts
  obtain ⟨draft, read, _⟩ := bind_eq_ok.mp accepts
  exact document_of_readDraft read

/-- Outcomes that give the same values fail together. -/
theorem error_iff_of_ok_iff {ε α : Type} {first second : Except ε α}
    (accepts : ∀ value, first = .ok value ↔ second = .ok value) :
    (∃ fault, first = .error fault) ↔ ∃ fault, second = .error fault := by
  cases first with
  | error fault =>
      cases second with
      | error other => simp
      | ok value => cases (accepts value).mpr rfl
  | ok value =>
      rw [(accepts value).mp rfl]

/-- Attributes that cannot be read are passed over. A document describes a model exactly when it describes the
    same model with all its tags mended. So it is rejected exactly when it is rejected then, that is for
    something else than such an attribute, and where it holds a model at all even with the same fault. A mended
    tag has the name of the tag and the attributes that can be read in it, and nothing else stands in it. -/
theorem faulty_attributes_are_passed_over (stream : Stream) :
    (∀ model, readDocument (Cursor.ofStream stream) = .ok model ↔
      readDocument (Cursor.ofStream stream.mended) = .ok model) ∧
    ((∃ fault, readDocument (Cursor.ofStream stream) = .error fault) ↔
      ∃ fault, readDocument (Cursor.ofStream stream.mended) = .error fault) ∧
    (∀ isEmpty tag inside, ModelDocument stream.events isEmpty tag inside →
      readDocument (Cursor.ofStream stream) = readDocument (Cursor.ofStream stream.mended)) ∧
    ∀ tag : Tag, tag.mended.name = tag.name ∧
      Markup.readAttributes tag.mended = (Markup.soundAttributes tag).map .ok := by
  have same : ∀ isEmpty tag inside, ModelDocument stream.events isEmpty tag inside →
      readDocument (Cursor.ofStream stream) = readDocument (Cursor.ofStream stream.mended) :=
    fun _ _ _ document => (readDocument_mended document).symm
  have accepts : ∀ model, readDocument (Cursor.ofStream stream) = .ok model ↔
      readDocument (Cursor.ofStream stream.mended) = .ok model := by
    refine fun model => ⟨fun accepts => ?_, fun accepts => ?_⟩
    · obtain ⟨_, _, _, document⟩ := document_of_readDocument accepts
      exact same _ _ _ document ▸ accepts
    · obtain ⟨_, _, _, after⟩ := document_of_readDocument accepts
      obtain ⟨_, _, document⟩ := document_of_mended after
      exact same _ _ _ document ▸ accepts
  exact ⟨accepts, error_iff_of_ok_iff accepts, same, fun tag => ⟨rfl, Markup.readAttributes_mended tag⟩⟩

/-- The document of a sketch: a class whose flag is written without quotation marks. -/
def sketchText : String :=
  "<model name='M'><class name='A' abstract=true/></model>"

/-- The flag of the sketch cannot be read. The document is accepted all the same, as it is after mending, and
    the class is not abstract. -/
theorem faulty_attributes_are_passed_over_sketch :
    ∃ (tag : Tag) (model : Model), (Stream.ofText sketchText).events =
        [.start ⟨"model", " name='M'"⟩, .empty tag, .finish "model"] ∧
      Markup.readAttributes tag = [.ok ⟨"name", "A"⟩, .error (.unquotedValue 24)] ∧
      readDocument (Cursor.ofStream (Stream.ofText sketchText)) = .ok model ∧
      readDocument (Cursor.ofStream (Stream.ofText sketchText).mended) = .ok model ∧
      (model.element? 1).map Element.content = some (.classifier .classType {}) := by
  let tag : Tag := ⟨"class", " name='A' abstract=true"⟩
  have stream : Stream.ofText sketchText =
      ⟨[.start ⟨"model", " name='M'"⟩, .empty tag, .finish "model"], .complete⟩ := by
    decide +kernel
  have document : ModelDocument (Stream.ofText sketchText).events false ⟨"model", " name='M'"⟩
      (.empty tag .nil) := by
    rw [stream]
    exact @ModelDocument.filled [] [] ⟨"model", " name='M'"⟩ (.empty tag .nil) "model" rfl (by simp [NoneOpens])
  have same := (faulty_attributes_are_passed_over (Stream.ofText sketchText)).2.2.1 _ _ _ document
  have read : (readDocument (Cursor.ofStream (Stream.ofText sketchText))).toOption.map
      (fun model => (model.element? 1).map Element.content) = some (some (.classifier .classType {})) := by
    rw [stream]
    decide +kernel
  obtain ⟨model, accepts, content⟩ := Option.map_eq_some_iff.mp read
  have accepts := eq_ok_of_toOption accepts
  exact ⟨tag, model, by rw [stream], by decide +kernel, accepts, same ▸ accepts, content⟩

end Document

end Blueprint
