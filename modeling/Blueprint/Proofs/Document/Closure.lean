/-
Module: Blueprint.Proofs.Document.Closure
Purpose: The model of a document mentions its own elements only. A type that is written out is never an
  element, so every element that a member, a use case or a relationship mentions has been put there by
  resolution, and resolution knows no elements but those of the document.
Main exports: holds_outline, Outline.MembersWritten, lt_of_declares, lt_of_mentions,
  endpoints_of_readDocument, lt_of_reaches
-/
import Blueprint.Proofs.Document.Containment
import Blueprint.Proofs.Document.Resolution
import Blueprint.Proofs.Model.Reach

namespace Blueprint.Document

open Blueprint.Markup (Tag Stream)

/-! ### What holds of every outline -/

section Outlines

variable {motive : Outline → Prop} (nil : motive .nil)
  (element : ∀ {entry inside rest}, motive inside → motive rest → motive (.element entry inside rest))
  (attr : ∀ {tag inside record rest}, attributeOf tag inside = .ok record → motive rest →
    motive (.attr record rest))
  (operation : ∀ {tag operation inside record rest}, readOperationTag tag = .ok operation →
    Forest.operation { operation } inside = .ok record → motive rest → motive (.operation record rest))
  (literal : ∀ {found rest}, motive rest → motive (.literal found rest))
  (documentation : ∀ {text rest}, motive rest → motive (.documentation text rest))
  (link : ∀ {found rest}, motive rest → motive (.link found rest))

include nil element attr operation literal documentation link

/-- The outline that begins with an element has a property if the outlines of what the element holds and
    of what follows have it, and each kind of declaration hands it on. -/
theorem holds_declaring {inClassifier isEmpty : Bool} {taken : List String} {tag : Tag} {inside : Forest}
    {within : Bool → List String → Except DocumentFault Outline}
    {following : List String → Except DocumentFault Outline} {outline : Outline}
    (inner : ∀ {inClassifier taken outline}, within inClassifier taken = .ok outline → motive outline)
    (outer : ∀ {taken outline}, following taken = .ok outline → motive outline)
    (declared : declaring inClassifier taken tag isEmpty inside within following = .ok outline) :
    motive outline := by
  cases begins_of_declaring declared with
  | element _ _ holds follows =>
      rcases holds with found | rfl
      · exact element (inner found) (outer follows)
      · exact element nil (outer follows)
  | attr read _ follows => exact attr read (outer follows)
  | operation read tells _ follows => exact operation read tells (outer follows)
  | literal _ follows => exact literal (outer follows)
  | documentation follows => exact documentation (outer follows)
  | link follows => exact link (outer follows)
  | nothing follows => exact outer follows

/-- A property that each kind of declaration hands on holds of the outline of every tree. -/
theorem holds_outline {forest : Forest} {inClassifier : Bool} {taken : List String} {outline : Outline}
    (found : forest.outline inClassifier taken = .ok outline) : motive outline := by
  induction forest generalizing inClassifier taken outline with
  | nil =>
      cases found
      exact nil
  | element tag inside closing rest insideIH restIH =>
      exact holds_declaring nil element attr operation literal documentation link insideIH restIH found
  | empty tag rest restIH =>
      apply holds_declaring nil element attr operation literal documentation link _ restIH found
      intro _ _ outline none
      cases none
      exact nil
  | leaf piece rest restIH => exact restIH found

end Outlines

/-! ### Types that are written out -/

/-- The type is none of the elements of a model. -/
def IsWritten (type : MemberType) : Prop :=
  ∀ id, type ≠ .element id

theorem isWritten_writtenType {value : String} {type : MemberType} (written : IsWritten type) :
    IsWritten (writtenType value type) := by
  unfold writtenType
  cases nonempty? value with
  | none => exact written
  | some name =>
      intro id
      exact MemberType.noConfusion

theorem isWritten_attributeTag {tag : Tag} {record : AttributeTag}
    (read : AttributeTag.read tag = .ok record) : IsWritten record.member.type := by
  refine gather_invariant (fun record : AttributeTag => IsWritten record.member.type)
    (fun id => MemberType.noConfusion) ?_ read
  intro record name value next written taken
  dsimp only at taken
  split at taken
  any_goals
    obtain ⟨_, _, result⟩ := bind_eq_ok.mp taken
    cases result
    exact written
  all_goals cases taken
  all_goals first
    | exact written
    | exact isWritten_writtenType written

theorem isWritten_parameterTag {tag : Tag} {record : ParameterTag}
    (read : ParameterTag.read tag = .ok record) : IsWritten record.parameter.type := by
  refine gather_invariant (fun record : ParameterTag => IsWritten record.parameter.type)
    (fun id => MemberType.noConfusion) ?_ read
  intro record name value next written taken
  dsimp only at taken
  split at taken
  any_goals
    obtain ⟨_, _, result⟩ := bind_eq_ok.mp taken
    cases result
    exact written
  all_goals cases taken
  all_goals first
    | exact written
    | exact isWritten_writtenType written

theorem isWritten_attributeOf {tag : Tag} {inside : Forest} {record : AttributeTag}
    (read : attributeOf tag inside = .ok record) : IsWritten record.member.type := by
  obtain ⟨before, fromTag, read⟩ := bind_eq_ok.mp read
  obtain ⟨documentation, _, read⟩ := bind_eq_ok.mp read
  cases read
  have written := isWritten_attributeTag fromTag
  exact written

theorem isWritten_parameterOf {tag : Tag} {inside : Forest} {record : ParameterTag}
    (read : parameterOf tag inside = .ok record) : IsWritten record.parameter.type := by
  obtain ⟨before, fromTag, read⟩ := bind_eq_ok.mp read
  obtain ⟨documentation, _, read⟩ := bind_eq_ok.mp read
  cases read
  have written := isWritten_parameterTag fromTag
  exact written

/-- The parameters of an operation have types that are written out. -/
def OperationRecord.ParametersWritten (record : OperationRecord) : Prop :=
  ∀ parameter ∈ record.parameters, IsWritten parameter.parameter.type

theorem parametersWritten_operationWith {record next : OperationRecord} {tag : Tag} {isEmpty : Bool}
    {inside : Forest} (written : record.ParametersWritten)
    (tells : operationWith record tag isEmpty inside = .ok next) : next.ParametersWritten := by
  unfold operationWith at tells
  split at tells
  · obtain ⟨parameter, read, tells⟩ := bind_eq_ok.mp tells
    cases tells
    intro found member
    rcases List.mem_append.mp member with earlier | new
    · exact written found earlier
    · rw [List.mem_singleton.mp new]
      exact isWritten_parameterOf read
  · split at tells
    · obtain ⟨_, _, tells⟩ := bind_eq_ok.mp tells
      cases tells
      exact written
    · split at tells
      · obtain ⟨_, _, tells⟩ := bind_eq_ok.mp tells
        cases tells
        exact written
      · cases tells
        exact written

theorem parametersWritten_operation {forest : Forest} {record result : OperationRecord}
    (written : record.ParametersWritten) (tells : forest.operation record = .ok result) :
    result.ParametersWritten := by
  induction forest generalizing record with
  | nil =>
      cases tells
      exact written
  | element tag inside closing rest _ restIH =>
      obtain ⟨next, first, tells⟩ := bind_eq_ok.mp tells
      exact restIH (parametersWritten_operationWith written first) tells
  | empty tag rest restIH =>
      obtain ⟨next, first, tells⟩ := bind_eq_ok.mp tells
      exact restIH (parametersWritten_operationWith written first) tells
  | leaf piece rest restIH => exact restIH written tells

/-- The members that stand directly in a container have types that are written out. -/
structure Outline.MembersWritten (outline : Outline) : Prop where
  attributes : ∀ record ∈ outline.attributes, IsWritten record.member.type
  operations : ∀ record ∈ outline.operations, record.ParametersWritten

/-- The types of members are written out at every depth. -/
theorem membersWritten_outline {forest : Forest} {inClassifier : Bool} {taken : List String}
    {outline : Outline} (found : forest.outline inClassifier taken = .ok outline) :
    outline.MembersWritten ∧
      ∀ next, ∀ declared ∈ outline.declarations next, declared.inside.MembersWritten := by
  refine holds_outline (motive := fun outline => outline.MembersWritten ∧
    ∀ next, ∀ declared ∈ outline.declarations next, declared.inside.MembersWritten)
    ?nil ?element ?attr ?operation ?literal ?documentation ?link found
  case nil =>
    constructor
    · constructor <;> intro record member <;> cases member
    · intro next declared member
      cases member
  case element =>
    rintro entry inside rest ⟨own, deeper⟩ ⟨members, others⟩
    constructor
    · exact ⟨members.attributes, members.operations⟩
    · intro next declared member
      rcases List.mem_cons.mp member with rfl | member
      · exact own
      · rcases List.mem_append.mp member with within | behind
        · exact deeper _ declared within
        · exact others _ declared behind
  case attr =>
    rintro tag inside record rest read ⟨members, others⟩
    refine ⟨⟨?_, members.operations⟩, others⟩
    intro found member
    rcases List.mem_cons.mp member with rfl | later
    · exact isWritten_attributeOf read
    · exact members.attributes found later
  case operation =>
    rintro tag operation inside record rest _ tells ⟨members, others⟩
    refine ⟨⟨members.attributes, ?_⟩, others⟩
    intro found member
    rcases List.mem_cons.mp member with rfl | later
    · apply parametersWritten_operation _ tells
      intro parameter none
      cases none
    · exact members.operations found later
  case literal => exact fun ⟨members, others⟩ => ⟨⟨members.attributes, members.operations⟩, others⟩
  case documentation => exact fun ⟨members, others⟩ => ⟨⟨members.attributes, members.operations⟩, others⟩
  case link => exact fun ⟨members, others⟩ => ⟨⟨members.attributes, members.operations⟩, others⟩

/-! ### Declared identities -/

theorem id_of_declarations {outline : Outline} {next : Nat} {declared : Declaration}
    (member : declared ∈ outline.declarations next) :
    (next : Nat) ≤ declared.id ∧ declared.id < next + outline.size := by
  induction outline generalizing next with
  | nil => cases member
  | element entry inside rest insideIH restIH =>
      rw [Outline.size]
      rcases List.mem_cons.mp member with rfl | member
      · exact ⟨Nat.le_refl next, Nat.lt_add_of_pos_right (by omega)⟩
      · rcases List.mem_append.mp member with within | behind
        · obtain ⟨low, high⟩ := insideIH within
          constructor
          · exact Nat.le_trans (Nat.le_succ next) low
          · apply Nat.lt_of_lt_of_le high
            omega
        · obtain ⟨low, high⟩ := restIH behind
          constructor
          · apply Nat.le_trans _ low
            omega
          · apply Nat.lt_of_lt_of_le high
            omega
  | attr record rest restIH => exact restIH member
  | operation record rest restIH => exact restIH member
  | literal found rest restIH => exact restIH member
  | documentation text rest restIH => exact restIH member
  | link found rest restIH => exact restIH member

section Model

variable {outline : Outline} {record : ModelTag} {model : Model}

theorem nextId_of_model (built : outline.model record = .ok model) :
    model.nextId = outline.size + 1 := by
  rw [Model.nextId, elements_of_model built, Outline.unrelated, List.size_toArray, List.length_cons,
    length_elements]

/-- A key is declared by an element of the model. -/
theorem lt_of_declares (built : outline.model record = .ok model) {key : String} {id : ElementId}
    (declares : outline.Declares key id) : id < model.nextId := by
  obtain ⟨declared, member, _, rfl⟩ := declares
  rw [nextId_of_model built, Nat.add_comm]
  exact (id_of_declarations member).2

theorem lt_of_settledType (built : outline.model record = .ok model) {key? : Option String}
    {written : MemberType} {id : ElementId} (plain : IsWritten written)
    (settled : SettledType outline.Declares key? written (.element id)) : id < model.nextId := by
  cases settled with
  | element declared => exact lt_of_declares built declared
  | written => exact absurd rfl (plain id)

/-- What an entry of the second list is related to stands in the first. -/
theorem exists_left_of_forall₂ {α β : Type} {relates : α → β → Prop} {items : List α} {results : List β}
    (related : List.Forall₂ relates items results) {result : β} (member : result ∈ results) :
    ∃ item ∈ items, relates item result := by
  induction related with
  | nil => cases member
  | cons first _ ih =>
      rcases List.mem_cons.mp member with rfl | later
      · exact ⟨_, List.mem_cons_self, first⟩
      · obtain ⟨item, member, relates⟩ := ih later
        exact ⟨item, List.mem_cons_of_mem _ member, relates⟩

/-- An element is the model itself, or it settles one of the declarations. -/
theorem settled_or_root (built : outline.model record = .ok model) (settled : outline.SettledIn model)
    {id : ElementId} {element : Element} (found : model.element? id = some element) :
    element.content = .model ∨
      ∃ declared ∈ outline.declarations 1, SettledElement outline.Declares declared element := by
  have member : element ∈ model.elements.toList := by
    rw [Array.mem_toList_iff]
    exact Array.mem_of_getElem? found
  have elements : model.elements.toList = Outline.rootElement record.name outline ::
      model.elements.toList.tail := by
    rw [elements_of_model built]
    rfl
  rw [elements] at member
  rcases List.mem_cons.mp member with rfl | below
  · exact .inl rfl
  · exact .inr (exists_left_of_forall₂ settled.elements below)

/-- The members of a classifier settle those that stand in one of the declarations. -/
theorem members_of_classifier? (built : outline.model record = .ok model)
    (settled : outline.SettledIn model) {owner : ElementId} {data : Classifier}
    (isClassifier : model.classifier? owner = some data) :
    ∃ declared ∈ outline.declarations 1,
      List.Forall₂ (SettledAttribute outline.Declares) declared.inside.attributes data.attributes ∧
      List.Forall₂ (SettledOperation outline.Declares) declared.inside.operations data.operations := by
  obtain ⟨element, place, content⟩ := Option.bind_eq_some_iff.mp isClassifier
  rcases settled_or_root built settled place with root | ⟨declared, member, settles⟩
  · rw [root] at content
    cases content
  · have details := settles.content
    generalize element.content = settledContent at content details
    generalize declared.entry.kind = kind at details
    cases details with
    | classifier members methods =>
        cases content
        exact ⟨declared, member, members, methods⟩
    | package => cases content
    | plainUseCase => cases content
    | useCase _ => cases content

/-- The two elements of a relationship, its own and that which it leads to, are among the elements. -/
theorem lt_of_settledLink (built : outline.model record = .ok model) {link : Link}
    {relationship : Relationship} (settled : SettledLink outline.Declares link relationship) :
    (∀ id ∈ relationship.source?, id < model.nextId) ∧
      (∀ id ∈ relationship.target?, id < model.nextId) ∧
      ∀ ends, relationship = .association ends →
        ends.first.element < model.nextId ∧ ends.second.element < model.nextId := by
  have known : ∀ {key id}, outline.Declares key id → ∀ other ∈ some id, other < model.nextId := by
    rintro key id declares other ⟨⟩
    exact lt_of_declares built declares
  cases settled with
  | generalization fromSource toTarget =>
      exact ⟨known fromSource, known toTarget, fun _ => Relationship.noConfusion⟩
  | realization fromSource toTarget =>
      exact ⟨known fromSource, known toTarget, fun _ => Relationship.noConfusion⟩
  | dependency fromSource toTarget =>
      exact ⟨known fromSource, known toTarget, fun _ => Relationship.noConfusion⟩
  | association firstEnd secondEnd =>
      obtain ⟨first, fromFirst, same, _⟩ := firstEnd
      obtain ⟨second, fromSecond, same', _⟩ := secondEnd
      refine ⟨fun _ none => (by cases none), fun _ none => (by cases none), ?_⟩
      rintro ends ⟨⟩
      rw [same, same']
      exact ⟨known fromFirst _ rfl, known fromSecond _ rfl⟩

end Model

/-! ### Models of documents -/

section Read

variable {stream : Stream} {model : Model} (read : readDocument (Cursor.ofStream stream) = .ok model)

include read

/-- The elements that a relationship of a document joins are among its elements. -/
theorem endpoints_of_readDocument {relationship : Relationship}
    (declared : relationship ∈ model.relationships) :
    (∀ id ∈ relationship.source?, id < model.nextId) ∧
      (∀ id ∈ relationship.target?, id < model.nextId) ∧
      ∀ ends, relationship = .association ends →
        ends.first.element < model.nextId ∧ ends.second.element < model.nextId := by
  obtain ⟨inside, record, outline, found, built⟩ := outline_of_readDocument read
  have distinct : outline.keys.Nodup := nodup_keys (valid_outline found) List.nodup_nil
  have settled := settledIn_of_model distinct built
  obtain ⟨link, _, settles⟩ := exists_left_of_forall₂ settled.relationships declared
  exact lt_of_settledLink built settles

/-- What an element of a document mentions is an element of the document. -/
theorem lt_of_mentions {id target : ElementId} (mentions : model.Mentions id target) :
    target < model.nextId := by
  have recorded := isRecorded_of_readDocument read
  obtain ⟨inside, record, outline, found, built⟩ := outline_of_readDocument read
  have distinct : outline.keys.Nodup := nodup_keys (valid_outline found) List.nodup_nil
  have settled := settledIn_of_model distinct built
  obtain ⟨-, written⟩ := membersWritten_outline found
  cases mentions with
  | parent named => exact Nat.lt_trans (recorded.parent_lt _ _ named) (Model.lt_of_parentOf? named)
  | owned listed => exact recorded.lt_of_owned listed
  | attributeType isClassifier declared typed =>
      obtain ⟨held, member, members, -⟩ := members_of_classifier? built settled isClassifier
      obtain ⟨record, declaredAs, settles⟩ := exists_left_of_forall₂ members declared
      apply lt_of_settledType built ((written 1 held member).attributes record declaredAs)
      rw [← typed]
      exact settles.type
  | parameterType isClassifier declared taken typed =>
      obtain ⟨held, member, -, methods⟩ := members_of_classifier? built settled isClassifier
      obtain ⟨record, declaredAs, settles⟩ := exists_left_of_forall₂ methods declared
      obtain ⟨parameter, takes, settles⟩ := exists_left_of_forall₂ settles.parameters taken
      apply lt_of_settledType built ((written 1 held member).operations record declaredAs parameter takes)
      rw [← typed]
      exact settles.type
  | stereotype place content =>
      rcases settled_or_root built settled place with root | ⟨held, _, settles⟩
      · cases content.symm.trans root
      · have details := settles.content
        rw [content] at details
        generalize held.entry.kind = kind at details
        cases details with
        | useCase declared => exact lt_of_declares built declared
  | directed declared leaves arrives =>
      exact (endpoints_of_readDocument read declared).2.1 _ arrives
  | association declared across =>
      obtain ⟨first, second⟩ := (endpoints_of_readDocument read declared).2.2 _ rfl
      unfold Association.endFrom? at across
      split at across
      · cases across
        exact second
      · split at across
        · cases across
          exact first
        · cases across

/-- No chain of mentions leads out of a document. -/
theorem lt_of_reaches {id target : ElementId} (known : id < model.nextId)
    (reaches : model.Reaches id target) : target < model.nextId := by
  cases reaches with
  | refl => exact known
  | tail _ mentions => exact lt_of_mentions read mentions

end Read

end Blueprint.Document
