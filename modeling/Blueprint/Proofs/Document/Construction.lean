/-
Module: Blueprint.Proofs.Document.Construction
Purpose: The model that a document builds, in closed form. The outline of a tree is valid: keys are
  free when they are taken, members stand in classifiers, and a new element has no members yet. Such
  an outline builds the elements that its closed form lists: the parent receives what stands in the
  container itself, and the elements of the outline follow in document order.
Main exports: Outline.Valid, begins_of_declaring, valid_outline, Outline.receive, elements_build, keys_build,
  mentions_layInto, links_layInto
-/
import Blueprint.Proofs.Document.Settling

namespace Blueprint.Document

open Blueprint.Markup (Tag)

/-! ### Valid outlines -/

/-- A new element has no members yet, and a use case holds nothing. -/
def Entry.Fresh (entry : Entry) (inside : Outline) : Prop :=
  match entry.kind with
  | .package => True
  | .classifier _ data => data.attributes = [] ∧ data.operations = [] ∧ data.literals = []
  | .useCase _ => inside = .nil

/-- What holds of the outline of a container, given whether it is a classifier and the keys that are
    taken already. -/
inductive Outline.Valid : (inClassifier : Bool) → (taken : List String) → Outline → Prop where
  | nil {inClassifier : Bool} {taken : List String} : Valid inClassifier taken .nil
  | element {inClassifier : Bool} {taken : List String} {entry : Entry} {inside rest : Outline}
      (fresh : entry.Fresh inside) (free : ∀ key ∈ entry.key?, key ∉ taken)
      (inner : Valid entry.kind.content.classifier?.isSome (taken ++ entry.key?.toList) inside)
      (outer : Valid inClassifier (taken ++ entry.key?.toList ++ inside.keys) rest) :
      Valid inClassifier taken (.element entry inside rest)
  | attr {taken : List String} {record : AttributeTag} {rest : Outline}
      (outer : Valid true taken rest) : Valid true taken (.attr record rest)
  | operation {taken : List String} {record : OperationRecord} {rest : Outline}
      (outer : Valid true taken rest) : Valid true taken (.operation record rest)
  | literal {taken : List String} {found : Literal} {rest : Outline}
      (outer : Valid true taken rest) : Valid true taken (.literal found rest)
  | documentation {inClassifier : Bool} {taken : List String} {text : String} {rest : Outline}
      (outer : Valid inClassifier taken rest) : Valid inClassifier taken (.documentation text rest)
  | link {inClassifier : Bool} {taken : List String} {found : Link} {rest : Outline}
      (outer : Valid inClassifier taken rest) : Valid inClassifier taken (.link found rest)

theorem free_of_takeKey {key? : Option String} {taken next : List String}
    (accepted : takeKey key? taken = .ok next) : ∀ key ∈ key?, key ∉ taken := by
  rintro key rfl member
  simp [takeKey, member] at accepted

/-- The tag of a classifier declares no members. -/
theorem members_of_readClassifierTag {tag : Tag} {record : ClassifierTag}
    (read : ClassifierTag.read tag = .ok record) :
    record.classifier.attributes = [] ∧ record.classifier.operations = [] ∧
      record.classifier.literals = [] := by
  refine gather_invariant (fun record : ClassifierTag => record.classifier.attributes = [] ∧
    record.classifier.operations = [] ∧ record.classifier.literals = []) ⟨rfl, rfl, rfl⟩ ?_ read
  intro record name value next keeps taken
  dsimp only at taken
  split at taken
  any_goals
    obtain ⟨_, _, result⟩ := bind_eq_ok.mp taken
    cases result
    exact keeps
  all_goals
    cases taken
    exact keeps

/-- How an outline begins that is read from an element and what follows it. Either the element declares an
    element, a member, a documentation text or a relationship in front of the outline of what follows, or it
    declares nothing. What a new element holds is outlined by `within`, and a use case holds nothing. -/
inductive Begins (inClassifier : Bool) (taken : List String) (tag : Tag) (inside : Forest)
    (within : Bool → List String → Except DocumentFault Outline)
    (following : List String → Except DocumentFault Outline) : Outline → Prop where
  | element {entry : Entry} {held rest : Outline} (fresh : entry.Fresh held)
      (free : ∀ key ∈ entry.key?, key ∉ taken)
      (holds : within entry.kind.content.classifier?.isSome (taken ++ entry.key?.toList) = .ok held ∨
        held = .nil)
      (follows : following (taken ++ entry.key?.toList ++ held.keys) = .ok rest) :
      Begins inClassifier taken tag inside within following (.element entry held rest)
  | attr {record : AttributeTag} {rest : Outline} (read : attributeOf tag inside = .ok record)
      (member : inClassifier = true) (follows : following taken = .ok rest) :
      Begins inClassifier taken tag inside within following (.attr record rest)
  | operation {operation : Operation} {record : OperationRecord} {rest : Outline}
      (read : readOperationTag tag = .ok operation) (tells : inside.operation { operation } = .ok record)
      (member : inClassifier = true) (follows : following taken = .ok rest) :
      Begins inClassifier taken tag inside within following (.operation record rest)
  | literal {found : Literal} {rest : Outline} (member : inClassifier = true)
      (follows : following taken = .ok rest) :
      Begins inClassifier taken tag inside within following (.literal found rest)
  | documentation {text : String} {rest : Outline} (follows : following taken = .ok rest) :
      Begins inClassifier taken tag inside within following (.documentation text rest)
  | link {found : Link} {rest : Outline} (follows : following taken = .ok rest) :
      Begins inClassifier taken tag inside within following (.link found rest)
  | nothing {outline : Outline} (follows : following taken = .ok outline) :
      Begins inClassifier taken tag inside within following outline

section Begins

variable {inClassifier isEmpty : Bool} {taken : List String} {tag : Tag} {inside : Forest}
  {within : Bool → List String → Except DocumentFault Outline}
  {following : List String → Except DocumentFault Outline} {outline : Outline}

/-- A package or a classifier begins the outline that it declares. -/
theorem begins_of_element {α : Type} {record : Except DocumentFault α} (entry : α → Entry)
    (fresh : ∀ found held, record = .ok found → (entry found).Fresh held)
    (declared : (do
      let record ← record
      let taken ← takeKey (entry record).key? taken
      let inside ← within (entry record).kind.content.classifier?.isSome taken
      let rest ← following (taken ++ inside.keys)
      return Outline.element (entry record) inside rest) = .ok outline) :
    Begins inClassifier taken tag inside within following outline := by
  obtain ⟨found, read, declared⟩ := bind_eq_ok.mp declared
  obtain ⟨next, accepted, declared⟩ := bind_eq_ok.mp declared
  obtain ⟨held, holds, declared⟩ := bind_eq_ok.mp declared
  obtain ⟨rest, follows, declared⟩ := bind_eq_ok.mp declared
  cases declared
  cases eq_of_takeKey accepted
  exact .element (fresh found held read) (free_of_takeKey accepted) (.inl holds) follows

/-- A declaration that holds no elements stands in front of the outline of what follows it. -/
theorem exists_of_declaration {α : Type} {record : Except DocumentFault α}
    {declaration : α → Outline → Outline}
    (declared : (do
      let record ← record
      return declaration record (← following taken)) = .ok outline) :
    ∃ found rest, record = .ok found ∧ following taken = .ok rest ∧ outline = declaration found rest := by
  obtain ⟨found, read, declared⟩ := bind_eq_ok.mp declared
  obtain ⟨rest, follows, declared⟩ := bind_eq_ok.mp declared
  cases declared
  exact ⟨found, rest, read, follows, rfl⟩

/-- A member stands in a classifier, in front of the outline of what follows it. -/
theorem exists_of_member_declaration {α : Type} {record : Except DocumentFault α}
    {declaration : α → Outline → Outline} {kind : MemberKind}
    (declared : (do
      let record ← record
      if inClassifier then return declaration record (← following taken)
      else .error (.strayMember kind)) = .ok outline) :
    ∃ found rest, record = .ok found ∧ inClassifier = true ∧ following taken = .ok rest ∧
      outline = declaration found rest := by
  cases inClassifier with
  | false =>
      obtain ⟨found, -, stray⟩ := bind_eq_ok.mp declared
      cases stray
  | true =>
      obtain ⟨found, rest, read, follows, same⟩ := exists_of_declaration declared
      exact ⟨found, rest, read, rfl, follows, same⟩

theorem begins_of_declaring
    (declared : declaring inClassifier taken tag isEmpty inside within following = .ok outline) :
    Begins inClassifier taken tag inside within following outline := by
  unfold declaring at declared
  cases kind : TagKind.ofName tag.name with
  | package =>
      simp only [kind] at declared
      exact begins_of_element (fun record : PackageTag => ⟨record.name, record.key?, .package⟩)
        (fun _ _ _ => trivial) declared
  | classifier =>
      simp only [kind] at declared
      exact begins_of_element
        (fun record : ClassifierTag => ⟨record.name, record.key?,
          .classifier (classifierKind tag.name record.classifier) record.classifier⟩)
        (fun _ _ read => members_of_readClassifierTag read) declared
  | useCase =>
      simp only [kind] at declared
      obtain ⟨record, _, declared⟩ := bind_eq_ok.mp declared
      obtain ⟨next, accepted, declared⟩ := bind_eq_ok.mp declared
      obtain ⟨rest, follows, declared⟩ := bind_eq_ok.mp declared
      cases declared
      cases eq_of_takeKey accepted
      exact .element rfl (free_of_takeKey accepted) (.inr rfl) (by simpa [Outline.keys] using follows)
  | attr =>
      simp only [kind] at declared
      obtain ⟨record, rest, read, member, follows, rfl⟩ := exists_of_member_declaration declared
      exact .attr read member follows
  | operation =>
      simp only [kind] at declared
      obtain ⟨operation, read, declared⟩ := bind_eq_ok.mp declared
      obtain ⟨record, rest, tells, member, follows, rfl⟩ := exists_of_member_declaration declared
      exact .operation read tells member follows
  | literal =>
      simp only [kind] at declared
      obtain ⟨found, rest, -, member, follows, rfl⟩ := exists_of_member_declaration declared
      exact .literal member follows
  | directed =>
      simp only [kind] at declared
      obtain ⟨found, rest, -, follows, rfl⟩ := exists_of_declaration declared
      exact .link follows
  | association =>
      simp only [kind] at declared
      obtain ⟨ends, rest, -, follows, rfl⟩ := exists_of_declaration declared
      exact .link follows
  | documentation =>
      simp only [kind] at declared
      split at declared
      · exact .nothing declared
      · obtain ⟨text, rest, -, follows, rfl⟩ := exists_of_declaration declared
        exact .documentation follows
  | unknown =>
      simp only [kind] at declared
      exact .nothing declared

/-- The outline that begins with an element is valid if what the element holds and what follows it
    are. -/
theorem valid_declaring
    (inner : ∀ {inClassifier taken outline}, within inClassifier taken = .ok outline →
      outline.Valid inClassifier taken)
    (outer : ∀ {taken outline}, following taken = .ok outline → outline.Valid inClassifier taken)
    (declared : declaring inClassifier taken tag isEmpty inside within following = .ok outline) :
    outline.Valid inClassifier taken := by
  cases begins_of_declaring declared with
  | element fresh free holds follows =>
      rcases holds with found | rfl
      · exact .element fresh free (inner found) (outer follows)
      · exact .element fresh free .nil (outer follows)
  | attr _ member follows =>
      subst member
      exact .attr (outer follows)
  | operation _ _ member follows =>
      subst member
      exact .operation (outer follows)
  | literal member follows =>
      subst member
      exact .literal (outer follows)
  | documentation follows => exact .documentation (outer follows)
  | link follows => exact .link (outer follows)
  | nothing follows => exact outer follows

end Begins

/-- The outline of a tree is valid. -/
theorem valid_outline {forest : Forest} {inClassifier : Bool} {taken : List String} {outline : Outline}
    (found : forest.outline inClassifier taken = .ok outline) : outline.Valid inClassifier taken := by
  induction forest generalizing inClassifier taken outline with
  | nil =>
      cases found
      exact .nil
  | element tag inside closing rest insideIH restIH => exact valid_declaring insideIH restIH found
  | empty tag rest restIH =>
      refine valid_declaring (fun found => ?_) restIH found
      cases found
      exact .nil
  | leaf piece rest restIH => exact restIH found

/-- In a valid outline no key is declared twice, nor one that is taken already. -/
theorem nodup_keys {inClassifier : Bool} {taken : List String} {outline : Outline}
    (valid : outline.Valid inClassifier taken) (distinct : taken.Nodup) :
    (taken ++ outline.keys).Nodup := by
  induction valid with
  | nil => simpa [Outline.keys] using distinct
  | @element _ taken entry inside rest _ free _ _ innerIH outerIH =>
      have next : (taken ++ entry.key?.toList).Nodup := by
        cases key : entry.key? with
        | none => simpa using distinct
        | some key' =>
            have absent := free key' (by simp [key])
            refine List.nodup_append.mpr ⟨distinct, by simp, ?_⟩
            intro first member second same equal
            simp only [Option.toList_some, List.mem_singleton] at same
            exact absent (same ▸ equal ▸ member)
      simpa [Outline.keys] using outerIH (innerIH next)
  | attr _ outerIH => exact outerIH distinct
  | operation _ outerIH => exact outerIH distinct
  | literal _ outerIH => exact outerIH distinct
  | documentation _ outerIH => exact outerIH distinct
  | link _ outerIH => exact outerIH distinct

/-! ### Built models in closed form -/

/-- What a container receives from the outline of what it holds, the first new element being `next`. -/
def Outline.receive (lookup : String → Option ElementId) (next : ElementId) (outline : Outline)
    (element : Element) : Element :=
  { element with
    documentation := outline.documentationAfter element.documentation
    owned := if element.content.canOwn then element.owned ++ outline.ids next else element.owned
    content := element.content.mapClassifier <|
      extended (outline.attributes.map (·.resolved lookup)) (outline.operations.map (·.resolved lookup))
        outline.literals }

section Closed

variable (lookup : String → Option ElementId)

theorem canOwn_mapClassifier (content : Content) (change : Classifier → Classifier) :
    (content.mapClassifier change).canOwn = content.canOwn := by
  cases content <;> rfl

theorem mapClassifier_mapClassifier (content : Content) (first second : Classifier → Classifier) :
    (content.mapClassifier first).mapClassifier second =
      content.mapClassifier fun data => second (first data) := by
  cases content <;> rfl

theorem extended_extended (attributes more : List Attribute) (operations methods : List Operation)
    (literals values : List Literal) (data : Classifier) :
    extended more methods values (extended attributes operations literals data) =
      extended (attributes ++ more) (operations ++ methods) (literals ++ values) data := by
  simp [extended]

theorem receive_nil (next : ElementId) (element : Element) :
    Outline.nil.receive lookup next element = element := by
  obtain ⟨id, name, documentation, parent?, owned, content⟩ := element
  cases content <;>
    simp [Outline.receive, Outline.documentationAfter, Outline.ids, Outline.attributes, Outline.operations,
      Outline.literals, extended, Content.mapClassifier]

theorem receive_element (next : ElementId) (entry : Entry) (inside rest : Outline) (element : Element) :
    (Outline.element entry inside rest).receive lookup next element =
      rest.receive lookup (next + 1 + inside.size) (element.own next) := by
  cases content : element.content <;>
    simp [Outline.receive, Outline.documentationAfter, Outline.ids, Outline.attributes, Outline.operations,
      Outline.literals, Element.own, Content.canOwn, content]

theorem receive_members (next : ElementId) (element : Element) {outline rest : Outline}
    {attributes : List Attribute} {operations : List Operation} {literals : List Literal}
    (documentation : ∀ found, outline.documentationAfter found = rest.documentationAfter found)
    (ids : outline.ids next = rest.ids next)
    (members : outline.attributes.map (·.resolved lookup) =
      attributes ++ rest.attributes.map (·.resolved lookup))
    (methods : outline.operations.map (·.resolved lookup) =
      operations ++ rest.operations.map (·.resolved lookup))
    (values : outline.literals = literals ++ rest.literals) :
    outline.receive lookup next element =
      rest.receive lookup next (onClassifier (extended attributes operations literals) element) := by
  simp only [Outline.receive, onClassifier, canOwn_mapClassifier, mapClassifier_mapClassifier,
    extended_extended, documentation, ids, members, methods, values]

/-- A new element that receives what its outline holds is the element of the closed form. -/
theorem receive_new {entry : Entry} {inside : Outline} (fresh : entry.Fresh inside)
    (parent next : ElementId) :
    inside.receive lookup (next + 1)
        { id := next, name := entry.name, parent? := some parent, content := entry.kind.resolved lookup } =
      { id := next
        name := entry.name
        documentation := inside.documentationAfter ""
        parent? := some parent
        owned := inside.ids (next + 1)
        content := Outline.content lookup entry inside } := by
  cases kind : entry.kind with
  | package =>
      simp [Outline.receive, Outline.content, kind, EntryKind.resolved, Content.canOwn,
        Content.mapClassifier]
  | classifier sort data =>
      simp only [Entry.Fresh, kind] at fresh
      obtain ⟨attributes, operations, literals⟩ := fresh
      simp [Outline.receive, Outline.content, kind, EntryKind.resolved, Content.canOwn,
        Content.mapClassifier, extended, attributes, operations, literals]
  | useCase stereotypeKey? =>
      simp only [Entry.Fresh, kind] at fresh
      subst fresh
      simp [Outline.receive, Outline.content, kind, EntryKind.resolved, Content.canOwn,
        Content.mapClassifier, Outline.ids]

theorem length_elements (outline : Outline) (parent next : ElementId) :
    (outline.elements lookup parent next).length = outline.size := by
  induction outline generalizing parent next with
  | nil => rfl
  | element entry inside rest insideIH restIH =>
      simp only [Outline.elements, Outline.size, List.length_cons, List.length_append, insideIH, restIH]
      omega
  | attr record rest restIH => exact restIH parent next
  | operation record rest restIH => exact restIH parent next
  | literal found rest restIH => exact restIH parent next
  | documentation text rest restIH => exact restIH parent next
  | link found rest restIH => exact restIH parent next

theorem nextId_placed (model : Model) (keys : List (String × ElementId)) (parent : ElementId)
    (name : String) (content : Content) :
    (withKeys keys (model.add parent name content)).nextId = model.nextId + 1 :=
  Model.nextId_add ..

theorem nextId_build (outline : Outline) (model : Model) (parent : ElementId) :
    (outline.build lookup model parent).nextId = model.nextId + outline.size := by
  induction outline generalizing model parent with
  | nil => rfl
  | element entry inside rest insideIH restIH =>
      simp only [Outline.build, Outline.size, restIH, insideIH, nextId_placed]
      change @Eq Nat _ _
      omega
  | attr record rest restIH => simp [Outline.build, Outline.size, restIH]
  | operation record rest restIH => simp [Outline.build, Outline.size, restIH]
  | literal found rest restIH => simp [Outline.build, Outline.size, restIH]
  | documentation text rest restIH => simp [Outline.build, Outline.size, restIH]
  | link found rest restIH => simp [Outline.build, Outline.size, restIH]

/-- A new element stands last, and its parent owns it. -/
theorem elements_placed {model : Model} {parent : ElementId} (known : parent < model.nextId)
    (keys : List (String × ElementId)) (name : String) (content : Content) :
    (withKeys keys (model.add parent name content)).elements.toList =
      model.elements.toList.modify parent (·.own model.nextId) ++
        [{ id := model.nextId, name, parent? := some parent, content }] := by
  have last := modify_append_of_lt [{ id := model.nextId, name, parent? := some parent, content }]
    (·.own model.nextId) (show parent < model.elements.toList.length from known)
  simpa [withKeys, Model.add] using last

/-- The last element receives what is built in it, and the new elements follow it. -/
theorem elements_within {placed : Model} {before : List Element} {child : Element} {inside : Outline}
    (last : placed.elements.toList = before ++ [child])
    (held : (inside.build lookup placed before.length).elements.toList =
      placed.elements.toList.modify before.length (inside.receive lookup placed.nextId) ++
        inside.elements lookup before.length placed.nextId) :
    (inside.build lookup placed before.length).elements.toList =
      before ++ inside.receive lookup placed.nextId child ::
        inside.elements lookup before.length placed.nextId := by
  rw [held, last, modify_append_length before [] child, List.append_assoc, List.singleton_append]

/-- A change of the container that an outline begins with is part of what the container receives. -/
theorem elements_change {model : Model} {parent : ElementId} {change : Element → Element}
    {outline rest : Outline}
    (received : ∀ element, outline.receive lookup model.nextId element =
      rest.receive lookup model.nextId (change element))
    (later : (rest.build lookup (model.modify parent change) parent).elements.toList =
      (model.modify parent change).elements.toList.modify parent
          (rest.receive lookup (model.modify parent change).nextId) ++
        rest.elements lookup parent (model.modify parent change).nextId) :
    (rest.build lookup (model.modify parent change) parent).elements.toList =
      model.elements.toList.modify parent (outline.receive lookup model.nextId) ++
        rest.elements lookup parent model.nextId := by
  rw [later, Model.nextId_modify, Model.modify, Array.toList_modify, List.modify_modify_eq]
  congr 2
  exact (funext received).symm

/-- The elements that an outline builds: the parent receives what the container itself declares, and
    the new elements follow in document order. -/
theorem elements_build {outline : Outline} {inClassifier : Bool} {taken : List String}
    (valid : outline.Valid inClassifier taken) {model : Model} {parent : ElementId}
    (known : parent < model.nextId) :
    (outline.build lookup model parent).elements.toList =
      model.elements.toList.modify parent (outline.receive lookup model.nextId) ++
        outline.elements lookup parent model.nextId := by
  induction valid generalizing model parent with
  | nil =>
      have same : Outline.nil.receive lookup model.nextId = id := funext (receive_nil lookup _)
      simp [Outline.build, Outline.elements, same]
  | @element _ _ entry inside rest fresh _ _ _ innerIH outerIH =>
      -- the new element stands last while what it holds is built, and its parent before it
      let placed := withKeys (entry.key?.toList.map (·, model.nextId) ++ model.keys)
        (model.add parent entry.name (entry.kind.resolved lookup))
      have nextId : placed.nextId = model.nextId + 1 := nextId_placed ..
      have grown : (inside.build lookup placed model.nextId).nextId = model.nextId + 1 + inside.size := by
        rw [nextId_build, nextId]
      have length : (model.elements.toList.modify parent (·.own model.nextId)).length = model.nextId := by
        simp [Model.nextId]
      have last : placed.elements.toList = _ := elements_placed known ..
      have inner := elements_within lookup last
        (innerIH (by rw [length, nextId]; exact Nat.lt_succ_self _))
      rw [length, nextId] at inner
      have outer := @outerIH (inside.build lookup placed model.nextId) parent
        (by rw [grown]; exact Nat.lt_add_right _ (Nat.lt_succ_of_lt known))
      have received : (fun element => rest.receive lookup (model.nextId + 1 + inside.size)
          (element.own model.nextId)) = (Outline.element entry inside rest).receive lookup model.nextId :=
        funext fun element => (receive_element lookup _ entry inside rest element).symm
      have first : parent < (model.elements.toList.modify parent (·.own model.nextId)).length := by
        simpa [Model.nextId] using known
      rw [Outline.build, outer, inner, grown, modify_append_of_lt _ _ first, List.modify_modify_eq,
        receive_new lookup fresh]
      simp [Outline.elements, ← received, Function.comp_def]
  | @attr _ record rest _ outerIH =>
      refine elements_change lookup (fun element => ?_) (outerIH (by simpa using known))
      exact receive_members lookup _ element (fun _ => rfl) rfl rfl rfl rfl
  | @operation _ record rest _ outerIH =>
      refine elements_change lookup (fun element => ?_) (outerIH (by simpa using known))
      exact receive_members lookup _ element (fun _ => rfl) rfl rfl rfl rfl
  | @literal _ found rest _ outerIH =>
      refine elements_change lookup (fun element => ?_) (outerIH (by simpa using known))
      exact receive_members lookup _ element (fun _ => rfl) rfl rfl rfl rfl
  | @documentation _ _ text rest _ outerIH =>
      exact elements_change lookup (fun element => rfl) (outerIH (by simpa using known))
  | link _ outerIH => exact outerIH known

/-- The keys that an outline declares are kept, the last one first. -/
theorem keys_build (outline : Outline) (model : Model) (parent : ElementId) :
    (outline.build lookup model parent).keys = (outline.keyed model.nextId).reverse ++ model.keys := by
  induction outline generalizing model parent with
  | nil => rfl
  | element entry inside rest insideIH restIH =>
      have single : (entry.key?.toList.map (·, model.nextId)).reverse =
          entry.key?.toList.map (·, model.nextId) := by
        cases entry.key? <;> rfl
      simp only [Outline.build, Outline.keyed, restIH, insideIH, nextId_build, nextId_placed,
        List.reverse_append,
        List.append_assoc, single]
      rfl
  | attr record rest restIH => rw [Outline.build, restIH, Model.nextId_modify]; rfl
  | operation record rest restIH => rw [Outline.build, restIH, Model.nextId_modify]; rfl
  | literal found rest restIH => rw [Outline.build, restIH, Model.nextId_modify]; rfl
  | documentation text rest restIH => rw [Outline.build, restIH, Model.nextId_modify]; rfl
  | link found rest restIH => exact restIH model parent

/-- Building declares no relationship, and leaves the author as it is. -/
theorem relationships_build (outline : Outline) (model : Model) (parent : ElementId) :
    (outline.build lookup model parent).relationships = model.relationships ∧
      (outline.build lookup model parent).author? = model.author? := by
  induction outline generalizing model parent with
  | nil => exact ⟨rfl, rfl⟩
  | element entry inside rest insideIH restIH =>
      exact ⟨(restIH _ _).1.trans (insideIH _ _).1, (restIH _ _).2.trans (insideIH _ _).2⟩
  | attr record rest restIH => exact restIH _ _
  | operation record rest restIH => exact restIH _ _
  | literal found rest restIH => exact restIH _ _
  | documentation text rest restIH => exact restIH _ _
  | link found rest restIH => exact restIH _ _

end Closed

/-! ### References and relationships in document order -/

/-- A recorded reference as a message names it. -/
def Reference.mention (reference : Reference) : ReferenceContext × String :=
  (reference.context, reference.key)

/-- An operation mentions the types of its parameters, in order. -/
theorem mention_operation (draft : Draft) (owner : ElementId) (record : OperationRecord) :
    (draft.pushOperation owner record).references.map Reference.mention =
      draft.references.map Reference.mention ++
        (record.parameters.filterMap ParameterTag.typeKey?).map (.parameterType, ·) := by
  let reference (index : Nat) (key : Nat × String) := Reference.parameterType owner index key.1 key.2
  have general : ∀ (index : Nat) (parameters : List ParameterTag) (first : Nat),
      (((parameters.zipIdx first).flatMap fun placed =>
          placed.1.typeKey?.toList.map (placed.2, ·)).map (reference index)).map Reference.mention =
        (parameters.filterMap ParameterTag.typeKey?).map (.parameterType, ·) := by
    intro index parameters
    induction parameters with
    | nil => intro first; rfl
    | cons parameter parameters ih =>
        intro first
        have following := ih (first + 1)
        cases typeKey : parameter.typeKey? with
        | none => simpa [List.zipIdx_cons, typeKey] using following
        | some key =>
            simpa [List.zipIdx_cons, typeKey, Reference.mention, Reference.context, Reference.key,
              reference] using following
  rw [Draft.pushOperation, List.map_append]
  congr 1
  exact general _ record.parameters 0

/-- The references that a draft records are those that the outline mentions, in document order. -/
theorem mentions_layInto (outline : Outline) (draft : Draft) (parent : ElementId) :
    (outline.layInto draft parent).references.map Reference.mention =
      draft.references.map Reference.mention ++ outline.mentions := by
  induction outline generalizing draft parent with
  | nil => simp [Outline.layInto, Outline.mentions]
  | element entry inside rest insideIH restIH =>
      rw [Outline.layInto, restIH, insideIH, Outline.mentions, Draft.place, List.map_append]
      simp only [List.append_assoc]
      congr 2
      cases entry.kind with
      | useCase stereotypeKey? => cases stereotypeKey? <;> rfl
      | _ => rfl
  | attr record rest restIH =>
      rw [Outline.layInto, restIH, Outline.mentions, Draft.pushAttribute, List.map_append,
        List.append_assoc]
      congr 2
      cases record.typeKey? <;> rfl
  | operation record rest restIH =>
      rw [Outline.layInto, restIH, Outline.mentions, mention_operation, List.append_assoc]
  | literal found rest restIH => exact restIH _ _
  | documentation text rest restIH => exact restIH _ _
  | link found rest restIH => exact restIH _ _

theorem links_layInto (outline : Outline) (draft : Draft) (parent : ElementId) :
    (outline.layInto draft parent).links = draft.links ++ outline.links := by
  induction outline generalizing draft parent with
  | nil => simp [Outline.layInto, Outline.links]
  | element entry inside rest insideIH restIH =>
      rw [Outline.layInto, restIH, insideIH, Outline.links, List.append_assoc]
      rfl
  | attr record rest restIH => exact restIH _ _
  | operation record rest restIH => exact restIH _ _
  | literal found rest restIH => exact restIH _ _
  | documentation text rest restIH => exact restIH _ _
  | link found rest restIH =>
      rw [Outline.layInto, restIH, Outline.links]
      simp [Draft.link]

end Blueprint.Document
