/-
Module: Blueprint.Proofs.Document.Growth
Purpose: How a draft grows while a document is read. Laying an outline into a draft performs its
  declarations one after the other, below a given parent. The reader of a container fails where the
  outline of its tree fails, with the same fault, and otherwise has laid that outline into the draft
  and stands behind the end tag.
Main exports: Draft.place, Draft.pushAttribute, Draft.pushOperation, Outline.layInto, Follows,
  readChildren_follows
-/
import Blueprint.Proofs.Document.Consumption
import Blueprint.Proofs.Model.Elements

namespace Blueprint.Document

open Blueprint.Markup (Event Tag Ending)

/-! ### Declarations performed on a draft -/

/-- The content of an element when its tag has just been read. -/
def EntryKind.content : EntryKind → Content
  | package => .package
  | classifier kind data => .classifier kind data
  | useCase _ => .useCase none

/-- The references that the tag of an element makes. -/
def EntryKind.references (id : ElementId) : EntryKind → List Reference
  | useCase stereotypeKey? => stereotypeKey?.toList.map (.stereotype id)
  | _ => []

namespace Draft

/-- The keys that are taken, in document order. -/
def takenKeys (draft : Draft) : List String :=
  (draft.model.keys.map Prod.fst).reverse

/-- The element is a classifier of the draft. -/
def hasMembers (draft : Draft) (id : ElementId) : Bool :=
  (draft.model.classifier? id).isSome

/-- The draft with a new element below `parent`. -/
def place (draft : Draft) (parent : ElementId) (entry : Entry) : Draft :=
  let id := draft.model.nextId
  let model := draft.model.add parent entry.name entry.kind.content
  { draft with
    model := { model with keys := entry.key?.toList.map (·, id) ++ model.keys }
    references := draft.references ++ entry.kind.references id }

/-- The draft with an attribute added to a classifier. -/
def pushAttribute (draft : Draft) (owner : ElementId) (record : AttributeTag) : Draft :=
  let index := ((draft.model.classifier? owner).map fun classifier => classifier.attributes.length).getD 0
  { draft with
    model := draft.model.modifyClassifier owner fun classifier =>
      { classifier with attributes := classifier.attributes ++ [record.member] }
    references := draft.references ++
      record.typeKey?.toList.map fun key => .attributeType owner index key }

/-- The draft with an operation added to a classifier. -/
def pushOperation (draft : Draft) (owner : ElementId) (record : OperationRecord) : Draft :=
  let index := ((draft.model.classifier? owner).map fun classifier => classifier.operations.length).getD 0
  { draft with
    model := draft.model.modifyClassifier owner fun classifier =>
      { classifier with operations := classifier.operations ++ [record.draft.operation] }
    references := draft.references ++
      record.keys.map fun (parameter, key) => .parameterType owner index parameter key }

/-- The draft with a literal added to a classifier. -/
def pushLiteral (draft : Draft) (owner : ElementId) (literal : Literal) : Draft :=
  { draft with
    model := draft.model.modifyClassifier owner fun classifier =>
      { classifier with literals := classifier.literals ++ [literal] } }

end Draft

/-- The draft with the declarations of an outline performed one after the other below `parent`. -/
def Outline.layInto (draft : Draft) (parent : ElementId) : Outline → Draft
  | nil => draft
  | element entry inside rest =>
    rest.layInto (inside.layInto (draft.place parent entry) draft.model.nextId) parent
  | attr record rest => rest.layInto (draft.pushAttribute parent record) parent
  | operation record rest => rest.layInto (draft.pushOperation parent record) parent
  | literal found rest => rest.layInto (draft.pushLiteral parent found) parent
  | documentation text rest => rest.layInto (draft.document parent text) parent
  | link found rest => rest.layInto (draft.link found) parent

/-! ### What a declaration changes -/

namespace Draft

variable (draft : Draft) (parent : ElementId)

@[simp]
theorem nextId_place (entry : Entry) :
    (draft.place parent entry).model.nextId = draft.model.nextId + 1 :=
  Model.nextId_add ..

@[simp]
theorem nextId_pushAttribute (record : AttributeTag) :
    (draft.pushAttribute parent record).model.nextId = draft.model.nextId :=
  Model.nextId_modifyClassifier ..

@[simp]
theorem nextId_pushOperation (record : OperationRecord) :
    (draft.pushOperation parent record).model.nextId = draft.model.nextId :=
  Model.nextId_modifyClassifier ..

@[simp]
theorem nextId_pushLiteral (literal : Literal) :
    (draft.pushLiteral parent literal).model.nextId = draft.model.nextId :=
  Model.nextId_modifyClassifier ..

@[simp]
theorem nextId_document (text : String) :
    (draft.document parent text).model.nextId = draft.model.nextId :=
  Model.nextId_modify ..

@[simp]
theorem nextId_link (link : Link) : (draft.link link).model.nextId = draft.model.nextId := rfl

@[simp]
theorem takenKeys_place (entry : Entry) :
    (draft.place parent entry).takenKeys = draft.takenKeys ++ entry.key?.toList := by
  cases key : entry.key? <;> simp [takenKeys, place, key, Model.add]

@[simp]
theorem takenKeys_pushAttribute (record : AttributeTag) :
    (draft.pushAttribute parent record).takenKeys = draft.takenKeys := rfl

@[simp]
theorem takenKeys_pushOperation (record : OperationRecord) :
    (draft.pushOperation parent record).takenKeys = draft.takenKeys := rfl

@[simp]
theorem takenKeys_pushLiteral (literal : Literal) :
    (draft.pushLiteral parent literal).takenKeys = draft.takenKeys := rfl

@[simp]
theorem takenKeys_document (text : String) :
    (draft.document parent text).takenKeys = draft.takenKeys := rfl

@[simp]
theorem takenKeys_link (link : Link) : (draft.link link).takenKeys = draft.takenKeys := rfl

theorem hasMembers_modifyClassifier (owner id : ElementId) (change : Classifier → Classifier)
    (references : List Reference) :
    hasMembers { draft with model := draft.model.modifyClassifier owner change, references } id =
      draft.hasMembers id := by
  simp only [hasMembers, Model.classifier?_modifyClassifier]
  split <;> simp

theorem hasMembers_document (id : ElementId) (text : String) :
    (draft.document parent text).hasMembers id = draft.hasMembers id := by
  simp only [hasMembers, document]
  rw [Model.classifier?_modify_of_content]
  intro element
  rfl

theorem hasMembers_place_of_lt {id : ElementId} (entry : Entry) (known : id < draft.model.nextId) :
    (draft.place parent entry).hasMembers id = draft.hasMembers id :=
  congrArg Option.isSome (Model.classifier?_add_of_lt entry.name entry.kind.content known)

theorem hasMembers_place_new (entry : Entry) (known : parent < draft.model.nextId) :
    (draft.place parent entry).hasMembers draft.model.nextId =
      entry.kind.content.classifier?.isSome :=
  congrArg Option.isSome (Model.classifier?_add_new entry.name entry.kind.content known)

end Draft

theorem nextId_layInto (outline : Outline) (draft : Draft) (parent : ElementId) :
    (outline.layInto draft parent).model.nextId = draft.model.nextId + outline.size := by
  induction outline generalizing draft parent with
  | nil => rfl
  | element entry inside rest insideIH restIH =>
      simp only [Outline.layInto, Outline.size, restIH, insideIH, Draft.nextId_place]
      change @Eq Nat _ _
      omega
  | attr record rest restIH => simp [Outline.layInto, Outline.size, restIH]
  | operation record rest restIH => simp [Outline.layInto, Outline.size, restIH]
  | literal found rest restIH => simp [Outline.layInto, Outline.size, restIH]
  | documentation text rest restIH => simp [Outline.layInto, Outline.size, restIH]
  | link found rest restIH => simp [Outline.layInto, Outline.size, restIH]

theorem takenKeys_layInto (outline : Outline) (draft : Draft) (parent : ElementId) :
    (outline.layInto draft parent).takenKeys = draft.takenKeys ++ outline.keys := by
  induction outline generalizing draft parent with
  | nil => simp [Outline.layInto, Outline.keys]
  | element entry inside rest insideIH restIH =>
      simp [Outline.layInto, Outline.keys, restIH, insideIH]
  | attr record rest restIH => simp [Outline.layInto, Outline.keys, restIH]
  | operation record rest restIH => simp [Outline.layInto, Outline.keys, restIH]
  | literal found rest restIH => simp [Outline.layInto, Outline.keys, restIH]
  | documentation text rest restIH => simp [Outline.layInto, Outline.keys, restIH]
  | link found rest restIH => simp [Outline.layInto, Outline.keys, restIH]

theorem hasMembers_layInto (outline : Outline) (draft : Draft) (parent : ElementId) {id : ElementId}
    (known : id < draft.model.nextId) :
    (outline.layInto draft parent).hasMembers id = draft.hasMembers id := by
  induction outline generalizing draft parent with
  | nil => rfl
  | element entry inside rest insideIH restIH =>
      have later : id < (draft.place parent entry).model.nextId := by
        simpa using Nat.lt_succ_of_lt known
      rw [Outline.layInto, restIH, insideIH _ _ later, Draft.hasMembers_place_of_lt _ _ _ known]
      rw [nextId_layInto]
      exact Nat.lt_add_right _ later
  | attr record rest restIH =>
      rw [Outline.layInto, restIH _ _ (by simpa using known)]
      exact Draft.hasMembers_modifyClassifier ..
  | operation record rest restIH =>
      rw [Outline.layInto, restIH _ _ (by simpa using known)]
      exact Draft.hasMembers_modifyClassifier ..
  | literal found rest restIH =>
      rw [Outline.layInto, restIH _ _ (by simpa using known)]
      exact Draft.hasMembers_modifyClassifier ..
  | documentation text rest restIH =>
      rw [Outline.layInto, restIH _ _ (by simpa using known), Draft.hasMembers_document]
  | link found rest restIH => exact restIH (draft.link found) parent known

/-! ### Accepting a declaration -/

theorem eq_of_takeKey {key? : Option String} {taken next : List String}
    (accepted : takeKey key? taken = .ok next) : next = taken ++ key?.toList := by
  unfold takeKey at accepted
  split at accepted
  · simpa using accepted.symm
  · split at accepted
    · simp at accepted
    · simpa using accepted.symm

theorem lookup_isSome_iff {key : String} {keys : List (String × ElementId)} :
    (keys.lookup key).isSome ↔ key ∈ keys.map Prod.fst := by
  induction keys with
  | nil => simp
  | cons pair keys ih =>
      obtain ⟨other, id⟩ := pair
      by_cases same : key = other
      · simp [same]
      · have differs : (key == other) = false := by simpa using same
        simp [List.lookup_cons, differs, same, ih]

namespace Draft

variable (draft : Draft) (parent : ElementId)

/-- A new element is accepted when its key is free. -/
theorem addElement_eq (entry : Entry) :
    draft.addElement parent entry.name entry.key? entry.kind.content =
      (takeKey entry.key? draft.takenKeys).map fun _ =>
        { draft.place parent entry with references := draft.references } := by
  unfold addElement register takeKey
  cases key : entry.key? with
  | none => simp [place, key, Except.map]
  | some key' =>
      have free : (draft.model.add parent entry.name entry.kind.content).lookup key' =
          draft.model.lookup key' := rfl
      have taken : (draft.model.lookup key').isSome ↔ key' ∈ draft.takenKeys := by
        simp only [takenKeys, List.mem_reverse]
        exact lookup_isSome_iff
      by_cases member : key' ∈ draft.takenKeys
      · simp [Model.register?, free, taken.mpr member, member, Except.map]
      · have absent : (draft.model.lookup key').isSome = false := by
          exact Bool.eq_false_iff.mpr fun found => member (taken.mp found)
        have keys : (draft.model.add parent entry.name entry.kind.content).keys = draft.model.keys := rfl
        simp [Model.register?, free, absent, member, place, key, keys, Except.map]

/-- An element without references is accepted when its tag can be read and its key is free. -/
theorem addElement_read_eq {α : Type} (record : Except DocumentFault α) (entry : α → Entry)
    (plain : ∀ found, (entry found).kind.references draft.model.nextId = []) :
    (do
      let record ← record
      draft.addElement parent (entry record).name (entry record).key? (entry record).kind.content) =
    (do
      let record ← record
      let _ ← takeKey (entry record).key? draft.takenKeys
      return draft.place parent (entry record)) := by
  cases record with
  | error fault => rfl
  | ok found =>
      simp only [bind, Except.bind]
      refine (addElement_eq draft parent (entry found)).trans ?_
      cases takeKey (entry found).key? draft.takenKeys <;> simp [Except.map, pure, Except.pure, place, plain]

theorem addPackage_eq (tag : Tag) :
    draft.addPackage parent tag = (do
      let record ← PackageTag.read tag
      let _ ← takeKey record.key? draft.takenKeys
      return draft.place parent ⟨record.name, record.key?, .package⟩) :=
  addElement_read_eq draft parent (PackageTag.read tag) (fun record => ⟨record.name, record.key?, .package⟩)
    (fun _ => rfl)

theorem addClassifier_eq (tag : Tag) :
    draft.addClassifier parent tag = (do
      let record ← ClassifierTag.read tag
      let _ ← takeKey record.key? draft.takenKeys
      let kind := classifierKind tag.name record.classifier
      return draft.place parent ⟨record.name, record.key?, .classifier kind record.classifier⟩) :=
  addElement_read_eq draft parent (ClassifierTag.read tag)
    (fun record => ⟨record.name, record.key?,
      .classifier (classifierKind tag.name record.classifier) record.classifier⟩) (fun _ => rfl)

theorem addUseCase_eq (tag : Tag) :
    draft.addUseCase parent tag = (do
      let record ← UseCaseTag.read tag
      let _ ← takeKey record.key? draft.takenKeys
      return draft.place parent ⟨record.name, record.key?, .useCase record.stereotype?⟩) := by
  unfold addUseCase
  cases UseCaseTag.read tag with
  | error fault => rfl
  | ok record =>
      have accepted : draft.addElement parent record.name record.key? (.useCase none) = _ :=
        addElement_eq draft parent ⟨record.name, record.key?, .useCase record.stereotype?⟩
      simp only [bind, Except.bind, accepted]
      cases takeKey record.key? draft.takenKeys <;> cases stereotype : record.stereotype? <;>
        simp [Except.map, pure, Except.pure, place, EntryKind.references]

theorem addAttribute_eq (record : AttributeTag) :
    draft.addAttribute parent record =
      if draft.hasMembers parent then .ok (draft.pushAttribute parent record)
      else .error (.strayMember .attr) := by
  unfold addAttribute ownerOf hasMembers pushAttribute
  cases draft.model.classifier? parent <;> simp [bind, Except.bind, pure, Except.pure]

theorem addOperation_eq (record : OperationRecord) :
    draft.addOperation parent record.draft.operation record.draft.keys =
      if draft.hasMembers parent then .ok (draft.pushOperation parent record)
      else .error (.strayMember .operation) := by
  unfold addOperation ownerOf hasMembers pushOperation
  cases draft.model.classifier? parent <;>
    simp [bind, Except.bind, pure, Except.pure, OperationRecord.draft]

theorem addLiteral_eq (literal : Literal) :
    draft.addLiteral parent literal =
      if draft.hasMembers parent then .ok (draft.pushLiteral parent literal)
      else .error (.strayMember .literal) := by
  unfold addLiteral ownerOf hasMembers pushLiteral
  cases draft.model.classifier? parent <;> simp [bind, Except.bind, pure, Except.pure]

theorem addDirected_eq (tag : Tag) : draft.addDirected tag = (linkOf tag).map draft.link := by
  unfold addDirected linkOf
  cases DirectedTag.read tag with
  | error fault => rfl
  | ok record =>
      cases source : record.source? <;> cases target : record.target? <;>
        simp only [source, target, bind, Except.bind, Except.map, pure, Except.pure]
      split <;> simp_all

end Draft

/-! ### The tag of an operation -/

/-- What holds of the initial record and is kept by every value holds of the record that a tag makes. -/
theorem gather_invariant {α : Type} (holds : α → Prop) {initial : α}
    {take : α → String → String → Except DocumentFault α} {tag : Tag} {result : α}
    (start : holds initial)
    (keeps : ∀ record name value next, holds record → take record name value = .ok next → holds next)
    (read : gather initial take tag = .ok result) : holds result := by
  unfold gather at read
  cases values : tagValues tag with
  | error fault => simp [values, bind, Except.bind] at read
  | ok pairs =>
      simp only [values, bind, Except.bind] at read
      clear values
      induction pairs generalizing initial with
      | nil =>
          simp only [List.foldlM_nil, pure, Except.pure, Except.ok.injEq] at read
          exact read ▸ start
      | cons pair pairs ih =>
          rw [List.foldlM_cons] at read
          cases taken : take initial pair.1 pair.2 with
          | error fault => simp [taken, bind, Except.bind] at read
          | ok next =>
              simp only [taken, bind, Except.bind] at read
              exact ih (keeps _ _ _ _ start taken) read

/-- The tag of an operation declares no parameters. -/
theorem parameters_of_readOperationTag {tag : Tag} {operation : Operation}
    (read : readOperationTag tag = .ok operation) : operation.parameters = [] := by
  refine gather_invariant (fun operation => operation.parameters = []) rfl ?_ read
  intro operation name value next keeps taken
  split at taken
  any_goals
    obtain ⟨_, _, result⟩ := bind_eq_ok.mp taken
    cases result
    exact keeps
  all_goals
    cases taken
    exact keeps

theorem draft_of_readOperationTag {tag : Tag} {operation : Operation}
    (read : readOperationTag tag = .ok operation) :
    OperationRecord.draft { operation } = { operation } := by
  have none := parameters_of_readOperationTag read
  cases operation
  simp_all [OperationRecord.draft, OperationRecord.keys]

/-- Behind its tag an operation is read with what it holds. -/
theorem stops_readOperation_tag {ending : Ending} {inside : Forest} {cursor after : Cursor} {tag : Tag}
    {operation : Operation} (read : readOperationTag tag = .ok operation)
    (spans : Spans ending false inside cursor after) :
    stops (readOperation { operation } cursor) =
      ((inside.operation { operation }).map OperationRecord.draft).map (·, after) := by
  cases spans with
  | filled inside closing events =>
      have laid := @stops_readOperation_events ending inside { operation } closing events
      rw [draft_of_readOperationTag read] at laid
      rw [laid]
      cases inside.operation { operation } <;> rfl

/-- Behind its tag an association is read with its ends. -/
theorem stops_readEnds_tag {ending : Ending} {inside : Forest} {cursor after : Cursor}
    (spans : Spans ending false inside cursor after) :
    stops (readEnds [] cursor) = inside.ends.map (·, after) := by
  cases spans with
  | filled inside closing events => exact stops_readEnds_events inside [] closing events

/-! ### Reading containers -/

theorem stops_readChildren_opening (draft : Draft) (parent : ElementId) {ending : Ending}
    {trimming isEmpty : Bool} {events : List Event} {event : Event} {tag : Tag}
    (opens : opening? event = some (tag, isEmpty)) :
    stops (readChildren draft parent ⟨event :: events, ending, trimming⟩) =
      (stops (readChild draft parent tag isEmpty ⟨events, ending, trimming⟩)).bind
        fun (draft, after) => stops (readChildren draft parent after) := by
  unfold stops
  rw [readChildren]
  simp only [Cursor.next?, view_of_opening opens, opens]
  cases readChild draft parent tag isEmpty ⟨events, ending, trimming⟩ with
  | error fault => rfl
  | ok read =>
      simp only [bind, Except.map, Except.bind]
      cases readChildren read.1 parent read.2.val <;> rfl

theorem stops_readChildren_finish (draft : Draft) (parent : ElementId) {ending : Ending}
    {trimming : Bool} {events : List Event} (name : String) :
    stops (readChildren draft parent ⟨.finish name :: events, ending, trimming⟩) =
      .ok (draft, ⟨events, ending, trimming⟩) := by
  unfold stops
  rw [readChildren]
  rfl

theorem stops_readChildren_leaf (draft : Draft) (parent : ElementId) {ending : Ending}
    {trimming : Bool} {events : List Event} (piece : Leaf) :
    stops (readChildren draft parent ⟨piece.event :: events, ending, trimming⟩) =
      stops (readChildren draft parent ⟨events, ending, trimming⟩) := by
  unfold stops
  rw [readChildren]
  cases piece <;> simp only [Leaf.event, Cursor.next?, Cursor.view, opening?] <;>
    cases readChildren draft parent ⟨events, ending, trimming⟩ <;> rfl

/-- Reading behind a tag: `read` continues a draft that has `parent` as a classifier or not, as the
    outline says. -/
def Follows (read : Draft → ElementId → Except DocumentFault (Draft × Cursor))
    (outline : Bool → List String → Except DocumentFault Outline) (after : Cursor) : Prop :=
  ∀ draft parent, parent < draft.model.nextId →
    read draft parent = (outline (draft.hasMembers parent) draft.takenKeys).map
      fun found => (found.layInto draft parent, after)

section Child

variable {ending : Ending} {isEmpty : Bool} {inside : Forest} {cursor after final : Cursor}
  {within : Bool → List String → Except DocumentFault Outline}
  {following : Bool → List String → Except DocumentFault Outline}

/-- An element that is empty holds nothing, and any other is read behind its tag. -/
theorem stops_within (spans : Spans ending isEmpty inside cursor after) (draft : Draft)
    (id : ElementId) :
    stops (if isEmpty then return (draft, cursor.here) else readChildren draft id cursor) =
      if isEmpty then .ok (draft, after) else stops (readChildren draft id cursor) := by
  cases spans <;> rfl

/-- What an element holds is laid below it, and what follows it below its parent. -/
theorem place_follows (spans : Spans ending isEmpty inside cursor after)
    (inner : Follows (fun draft parent =>
      if isEmpty then .ok (draft, after) else stops (readChildren draft parent cursor)) within after)
    (outer : Follows (fun draft parent => stops (readChildren draft parent after)) following final)
    (draft : Draft) {parent : ElementId} (known : parent < draft.model.nextId) (entry : Entry) :
    (stops (if isEmpty then return (draft.place parent entry, cursor.here)
      else readChildren (draft.place parent entry) draft.model.nextId cursor)).bind
      (fun (draft, after) => stops (readChildren draft parent after)) =
    (do
      let inside ← within entry.kind.content.classifier?.isSome (draft.takenKeys ++ entry.key?.toList)
      let rest ← following (draft.hasMembers parent)
        (draft.takenKeys ++ entry.key?.toList ++ inside.keys)
      return .element entry inside rest : Except DocumentFault Outline).map
      fun found => (found.layInto draft parent, final) := by
  have placed := inner (draft.place parent entry) draft.model.nextId
    (by rw [Draft.nextId_place]; exact Nat.lt_succ_self _)
  rw [Draft.hasMembers_place_new _ _ _ known, Draft.takenKeys_place] at placed
  dsimp only at placed
  rw [stops_within spans, placed]
  cases within entry.kind.content.classifier?.isSome (draft.takenKeys ++ entry.key?.toList) with
  | error fault => rfl
  | ok found =>
      have later : parent < (draft.place parent entry).model.nextId := by
        rw [Draft.nextId_place]
        exact Nat.lt_succ_of_lt known
      have grown := outer (found.layInto (draft.place parent entry) draft.model.nextId) parent
        (by rw [nextId_layInto]; exact Nat.lt_add_right _ later)
      rw [hasMembers_layInto _ _ _ later, Draft.hasMembers_place_of_lt _ _ _ known, takenKeys_layInto,
        Draft.takenKeys_place] at grown
      dsimp only at grown
      simp only [Except.map, Except.bind, bind, grown]
      cases following (draft.hasMembers parent) (draft.takenKeys ++ entry.key?.toList ++ found.keys) <;>
        rfl

/-- An element with a faulty tag or with a key that is taken is a fault; any other is laid with what it
    holds. -/
theorem element_follows {α : Type} (record : Except DocumentFault α) (entry : α → Entry)
    (spans : Spans ending isEmpty inside cursor after)
    (inner : Follows (fun draft parent =>
      if isEmpty then .ok (draft, after) else stops (readChildren draft parent cursor)) within after)
    (outer : Follows (fun draft parent => stops (readChildren draft parent after)) following final)
    (draft : Draft) {parent : ElementId} (known : parent < draft.model.nextId) :
    (stops (do
      let grown ← (do
        let record ← record
        let _ ← takeKey (entry record).key? draft.takenKeys
        return draft.place parent (entry record))
      if isEmpty then return (grown, cursor.here) else readChildren grown draft.model.nextId cursor)).bind
      (fun (draft, after) => stops (readChildren draft parent after)) =
    (do
      let record ← record
      let taken ← takeKey (entry record).key? draft.takenKeys
      let inside ← within (entry record).kind.content.classifier?.isSome taken
      let rest ← following (draft.hasMembers parent) (taken ++ inside.keys)
      return .element (entry record) inside rest : Except DocumentFault Outline).map
      fun found => (found.layInto draft parent, final) := by
  cases record with
  | error fault => rfl
  | ok record =>
      simp only [bind, Except.bind]
      cases accepted : takeKey (entry record).key? draft.takenKeys with
      | error fault => rfl
      | ok taken =>
          cases eq_of_takeKey accepted
          exact place_follows spans inner outer draft known (entry record)

/-- Passing over an element succeeds. -/
theorem exists_skipOpened (spans : Spans ending isEmpty inside cursor after) :
    ∃ later, skipOpened isEmpty cursor = .ok later ∧ later.val = after := by
  have stopped := skipOpened_spans spans
  cases skipped : skipOpened isEmpty cursor with
  | error fault => simp [skipped, Except.map] at stopped
  | ok later => exact ⟨later, rfl, by simpa [skipped, Except.map] using stopped⟩

/-- What follows a declaration that holds nothing is laid below the same parent. -/
theorem declared_follows
    (outer : Follows (fun draft parent => stops (readChildren draft parent after)) following final)
    {draft : Draft} {parent : ElementId} {taken : List String} (grown : Draft)
    (declaration : Outline → Outline)
    (known : parent < grown.model.nextId) (hasMembers : grown.hasMembers parent = draft.hasMembers parent)
    (takenKeys : grown.takenKeys = taken)
    (laid : ∀ rest, (declaration rest).layInto draft parent = rest.layInto grown parent) :
    stops (readChildren grown parent after) =
      (do
        let rest ← following (draft.hasMembers parent) taken
        return declaration rest : Except DocumentFault Outline).map
        fun found => (found.layInto draft parent, final) := by
  have continued := outer grown parent known
  rw [hasMembers, takenKeys] at continued
  dsimp only at continued
  rw [continued]
  cases following (draft.hasMembers parent) taken with
  | error fault => rfl
  | ok rest => simp [Except.map, bind, Except.bind, pure, Except.pure, laid]

/-- What follows a member is laid below the same classifier; elsewhere the member is a fault. The reader has
    `view` of the member where the outline has the member. -/
theorem member_follows {α β : Type} (view : α → β)
    (outer : Follows (fun draft parent => stops (readChildren draft parent after)) following final)
    {draft : Draft} {parent : ElementId} {kind : MemberKind}
    {content : Except DocumentFault (β × cursor.Later)} {expected : Except DocumentFault α}
    (reads : stops content = expected.map fun value => (view value, after))
    (add : β → Except DocumentFault Draft) (grown : α → Draft) (declaration : α → Outline → Outline)
    (accepts : ∀ value, add (view value) =
      if draft.hasMembers parent then .ok (grown value) else .error (.strayMember kind))
    (known : ∀ value, parent < (grown value).model.nextId)
    (hasMembers : ∀ value, (grown value).hasMembers parent = draft.hasMembers parent)
    (takenKeys : ∀ value, (grown value).takenKeys = draft.takenKeys)
    (laid : ∀ value rest,
      (declaration value rest).layInto draft parent = rest.layInto (grown value) parent) :
    (stops (do
      let (value, later) ← content
      return (← add value, later))).bind (fun (draft, after) => stops (readChildren draft parent after)) =
    (do
      let value ← expected
      if draft.hasMembers parent then
        return declaration value (← following (draft.hasMembers parent) draft.takenKeys)
      else .error (.strayMember kind) : Except DocumentFault Outline).map
      fun found => (found.layInto draft parent, final) := by
  have viewed : stops content = (expected.map view).map (·, after) := by
    rw [reads]
    cases expected <;> rfl
  cases expected with
  | error fault =>
      rcases stops_cases viewed with ⟨_, rfl, same⟩ | ⟨_, _, _, _, absent⟩
      · cases same
        rfl
      · cases absent
  | ok value =>
      rcases stops_cases viewed with ⟨_, _, absent⟩ | ⟨_, later, rfl, rfl, same⟩
      · cases absent
      · cases same
        have continued := declared_follows outer (grown value) (declaration value) (known value)
          (hasMembers value) (takenKeys value) (laid value)
        have accepted := accepts value
        cases members : draft.hasMembers parent with
        | false =>
            rw [members] at accepted
            simp only [accepted, stops, bind, Except.bind, Except.map, Bool.false_eq_true, if_false]
        | true =>
            rw [members] at accepted continued
            simp only [accepted, bind, Except.bind, if_true]
            exact continued

/-- What an operation holds is read behind its tag; an empty one holds nothing. -/
theorem stops_operationContent {tag : Tag} {operation : Operation}
    (read : readOperationTag tag = .ok operation) (spans : Spans ending isEmpty inside cursor after) :
    stops (if isEmpty then .ok ({ operation }, cursor.here) else readOperation { operation } cursor) =
      (inside.operation { operation }).map fun record => (record.draft, after) := by
  cases spans with
  | hollow events =>
      show _ = Except.ok (OperationRecord.draft { operation }, _)
      rw [draft_of_readOperationTag read]
      rfl
  | filled inside closing events =>
      refine (stops_readOperation_tag read (.filled inside closing events)).trans ?_
      cases inside.operation { operation } <;> rfl

/-- Reading one element and what follows it lays the outline that begins with that element. -/
theorem readChild_follows (tag : Tag) (spans : Spans ending isEmpty inside cursor after)
    (inner : Follows (fun draft parent =>
      if isEmpty then .ok (draft, after) else stops (readChildren draft parent cursor)) within after)
    (outer : Follows (fun draft parent => stops (readChildren draft parent after)) following final) :
    Follows
      (fun draft parent => (stops (readChild draft parent tag isEmpty cursor)).bind
        fun (draft, after) => stops (readChildren draft parent after))
      (fun inClassifier taken =>
        declaring inClassifier taken tag isEmpty inside within (following inClassifier)) final := by
  intro draft parent known
  simp only [declaring]
  rw [readChild]
  cases kind : TagKind.ofName tag.name with
  | package =>
      simp only [Draft.addPackage_eq]
      exact element_follows (PackageTag.read tag) (fun record => ⟨record.name, record.key?, .package⟩)
        spans inner outer draft known
  | classifier =>
      simp only [Draft.addClassifier_eq]
      exact element_follows (ClassifierTag.read tag)
        (fun record => ⟨record.name, record.key?,
          .classifier (classifierKind tag.name record.classifier) record.classifier⟩)
        spans inner outer draft known
  | attr =>
      exact member_follows id outer (stops_readAttribute tag spans) (draft.addAttribute parent)
        (draft.pushAttribute parent) .attr (Draft.addAttribute_eq draft parent)
        (by simp [known]) (fun _ => Draft.hasMembers_modifyClassifier ..) (by simp) (fun _ _ => rfl)
  | operation =>
      cases read : readOperationTag tag with
      | error fault => rfl
      | ok operation =>
          have laid := member_follows OperationRecord.draft outer (stops_operationContent read spans)
            (fun read => draft.addOperation parent read.operation read.keys) (draft.pushOperation parent)
            .operation (Draft.addOperation_eq draft parent) (by simp [known])
            (fun _ => Draft.hasMembers_modifyClassifier ..) (by simp) (fun _ _ => rfl)
          cases isEmpty <;> exact laid
  | literal =>
      exact member_follows id outer (stops_readLiteral tag spans) (draft.addLiteral parent)
        (draft.pushLiteral parent) .literal (Draft.addLiteral_eq draft parent)
        (by simp [known]) (fun _ => Draft.hasMembers_modifyClassifier ..) (by simp) (fun _ _ => rfl)
  | useCase =>
      simp only [Draft.addUseCase_eq]
      cases UseCaseTag.read tag with
      | error fault => rfl
      | ok record =>
          simp only [bind, Except.bind]
          cases accepted : takeKey record.key? draft.takenKeys with
          | error fault => rfl
          | ok taken =>
              cases eq_of_takeKey accepted
              obtain ⟨later, skipped, rfl⟩ := exists_skipOpened spans
              simp only [skipped]
              exact declared_follows outer _ (.element ⟨record.name, record.key?, _⟩ .nil)
                (by simpa using Nat.lt_succ_of_lt known) (Draft.hasMembers_place_of_lt _ _ _ known)
                (Draft.takenKeys_place ..) (fun rest => rfl)
  | directed =>
      simp only [Draft.addDirected_eq]
      cases linkOf tag with
      | error fault => rfl
      | ok link =>
          obtain ⟨later, skipped, rfl⟩ := exists_skipOpened spans
          simp only [skipped]
          exact declared_follows outer (draft.link link) (.link link) known rfl rfl (fun rest => rfl)
  | association =>
      have laid := fun ends => @declared_follows _ _ _ outer draft parent _
        (draft.link (.association ends)) (.link (.association ends)) known rfl rfl (fun rest => rfl)
      cases isEmpty with
      | true =>
          cases spans with
          | hollow events => exact laid []
      | false =>
          rcases stops_cases (stops_readEnds_tag spans) with
            ⟨fault, read, found⟩ | ⟨ends, later, read, rfl, found⟩
          · simp [stops, read, found, bind, Except.bind, Except.map]
          · simp only [read, found]
            exact laid ends
  | documentation =>
      cases isEmpty with
      | true =>
          cases spans with
          | hollow events => exact outer draft parent known
      | false =>
          rcases readText_cases spans with
            ⟨fault, later, read, found⟩ | ⟨text, later, read, rfl, found⟩
          · simp [stops, read, found, bind, Except.bind, Except.map]
          · simp only [read, found]
            exact declared_follows outer (draft.document parent text) (.documentation text)
              (by simpa using known) (Draft.hasMembers_document ..) (by simp) (fun rest => rfl)
  | unknown =>
      obtain ⟨later, skipped, rfl⟩ := exists_skipOpened spans
      simp only [skipped]
      exact outer draft parent known

end Child

/-- Reading the rest of a container lays the outline of what it holds into the draft, and stops behind
    it. -/
theorem readChildren_follows {ending : Ending} (forest : Forest) (closing : String) (events : List Event) :
    Follows
      (fun draft parent =>
        stops (readChildren draft parent ⟨forest.events ++ .finish closing :: events, ending, true⟩))
      (fun inClassifier taken => forest.outline inClassifier taken) ⟨events, ending, true⟩ := by
  induction forest generalizing closing events with
  | nil =>
      intro draft parent known
      exact stops_readChildren_finish draft parent closing
  | element tag inside final rest insideIH restIH =>
      intro draft parent known
      dsimp only [Forest.outline]
      rw [Forest.events_element_append, stops_readChildren_opening draft parent rfl]
      exact readChild_follows tag (.filled inside final _)
        (insideIH final (rest.events ++ .finish closing :: events)) (restIH closing events)
        draft parent known
  | empty tag rest restIH =>
      intro draft parent known
      dsimp only [Forest.outline]
      rw [Forest.events, List.cons_append, stops_readChildren_opening draft parent rfl]
      exact readChild_follows tag (.hollow _) (fun draft parent _ => rfl) (restIH closing events)
        draft parent known
  | leaf piece rest restIH =>
      intro draft parent known
      dsimp only [Forest.outline]
      rw [Forest.events, List.cons_append, stops_readChildren_leaf]
      exact restIH closing events draft parent known

end Blueprint.Document
