/-
Module: Blueprint.Proofs.Document.Settling
Purpose: What a draft stands for while its references are still pending. Settling a draft puts the
  element that a recorded reference names in the recorded place. Every reference that a draft records
  lands: its owner exists and has the member it points at. So a settled draft grows by settled
  members, whatever is recorded in between and in whatever order.
Main exports: Reference.settle, Reference.Lands, settleAll, Draft.settled, Draft.Landed,
  Outline.build, settled_layInto
-/
import Blueprint.Proofs.Document.Growth
import Blueprint.Proofs.Model.Classifiers

namespace Blueprint.Document

/-! ### Changes of members -/

/-- A change of the classifier alone. -/
def onClassifier (change : Classifier → Classifier) (element : Element) : Element :=
  { element with content := element.content.mapClassifier change }

/-- The classifier with members added behind those it has. -/
def extended (attributes : List Attribute) (operations : List Operation) (literals : List Literal)
    (data : Classifier) : Classifier :=
  { data with
    attributes := data.attributes ++ attributes
    operations := data.operations ++ operations
    literals := data.literals ++ literals }

/-- The numbers of attributes and operations of a classifier. -/
def memberCounts (element : Element) : Option (Nat × Nat) :=
  element.content.classifier?.map fun data => (data.attributes.length, data.operations.length)

theorem onClassifier_onClassifier (first second : Classifier → Classifier) (element : Element) :
    onClassifier second (onClassifier first element) =
      onClassifier (fun data => second (first data)) element := by
  cases content : element.content <;> simp [onClassifier, Content.mapClassifier, content]

/-- Changes that agree on the classifier make the same element. -/
theorem onClassifier_congr {first second : Classifier → Classifier} {element : Element}
    (agree : ∀ data, element.content.classifier? = some data → first data = second data) :
    onClassifier first element = onClassifier second element := by
  cases content : element.content with
  | classifier kind data =>
      have same := agree data (by simp [content, Content.classifier?])
      simp [onClassifier, Content.mapClassifier, content, same]
  | _ => simp [onClassifier, Content.mapClassifier, content]

theorem memberCounts_onClassifier (change : Classifier → Classifier) (element : Element) :
    memberCounts (onClassifier change element) =
      element.content.classifier?.map fun data =>
        ((change data).attributes.length, (change data).operations.length) := by
  simp only [memberCounts, onClassifier, Content.classifier?_mapClassifier, Option.map_map]
  rfl

theorem modify_append_of_lt {α : Type} {items : List α} (more : List α) {place : Nat}
    (change : α → α) (known : place < items.length) :
    (items ++ more).modify place change = items.modify place change ++ more := by
  induction items generalizing place with
  | nil => simp at known
  | cons item items ih =>
      cases place with
      | zero => rfl
      | succ place => simpa using ih (Nat.lt_of_succ_lt_succ known)

theorem modify_append_length {α : Type} (items more : List α) (item : α) (change : α → α) :
    (items ++ item :: more).modify items.length change = items ++ change item :: more := by
  induction items with
  | nil => rfl
  | cons first items ih => simpa using ih

/-! ### Settling one reference -/

namespace Reference

/-- The element in which a reference stands. -/
def owner : Reference → ElementId
  | attributeType owner _ _ | parameterType owner _ _ _ | stereotype owner _ => owner

/-- The key that a reference gives. -/
def key : Reference → String
  | attributeType _ _ key | parameterType _ _ _ key | stereotype _ key => key

/-- What a reference stands for. -/
def context : Reference → ReferenceContext
  | attributeType .. => .attributeType
  | parameterType .. => .parameterType
  | stereotype .. => .stereotype

/-- The owner with `target` put in the place of the reference. -/
def settle (target : ElementId) : Reference → Element → Element
  | attributeType _ index _, element =>
    onClassifier (fun classifier =>
      { classifier with
        attributes := classifier.attributes.modify index fun member =>
          { member with type := .element target } }) element
  | parameterType _ operation index _, element =>
    onClassifier (fun classifier =>
      { classifier with
        operations := classifier.operations.modify operation fun operation =>
          { operation with
            parameters := operation.parameters.modify index fun parameter =>
              { parameter with type := .element target } } }) element
  | stereotype _ _, element =>
    match element.content with
    | .useCase _ => { element with content := .useCase (some target) }
    | _ => element

/-- The owner, if it is a classifier, has the member that the reference points at. -/
def Fits (reference : Reference) (element : Element) : Prop :=
  ∀ attributes operations, memberCounts element = some (attributes, operations) →
    match reference with
    | attributeType _ index _ => index < attributes
    | parameterType _ operation _ _ => operation < operations
    | stereotype _ _ => True

/-- The owner exists and has the member that the reference points at. -/
def Lands (model : Model) (reference : Reference) : Prop :=
  ∃ element, model.element? reference.owner = some element ∧ reference.Fits element

/-- Settling replaces parts of members, and adds and removes none. -/
theorem memberCounts_settle (reference : Reference) (target : ElementId) (element : Element) :
    memberCounts (reference.settle target element) = memberCounts element := by
  cases reference with
  | attributeType owner index key =>
      rw [settle, memberCounts_onClassifier]
      simp [memberCounts]
  | parameterType owner operation index key =>
      rw [settle, memberCounts_onClassifier]
      simp [memberCounts]
  | stereotype owner key =>
      cases content : element.content <;> simp [settle, memberCounts, content, Content.classifier?]

end Reference

theorem resolveReference_eq (model : Model) (reference : Reference) :
    Draft.resolveReference model reference =
      (Draft.resolveKey model reference.context reference.key).map fun target =>
        model.modify reference.owner (reference.settle target) := by
  cases reference <;>
    simp only [Draft.resolveReference, Reference.context, Reference.key, Reference.owner] <;>
    cases Draft.resolveKey model _ _ <;> rfl

/-! ### Changes that settling leaves in place -/

/-- A change that only adds to an element: what was in it stays where it was. -/
structure Grows (change : Element → Element) : Prop where
  keeps : ∀ (reference : Reference) element, reference.Fits element → reference.Fits (change element)
  commutes : ∀ (reference : Reference) target element, reference.Fits element →
    reference.settle target (change element) = change (reference.settle target element)

theorem grows_extended (attributes : List Attribute) (operations : List Operation)
    (literals : List Literal) : Grows (onClassifier (extended attributes operations literals)) where
  keeps := by
    intro reference element fits attributeCount operationCount counts
    rw [memberCounts_onClassifier, Option.map_eq_some_iff] at counts
    obtain ⟨data, found, counts⟩ := counts
    have before := fits data.attributes.length data.operations.length (by simp [memberCounts, found])
    simp only [extended, List.length_append, Prod.mk.injEq] at counts
    cases reference <;> simp only at before ⊢ <;> omega
  commutes := by
    intro reference target element fits
    have before : ∀ data, element.content.classifier? = some data → _ := fun data found =>
      fits data.attributes.length data.operations.length (by simp [memberCounts, found])
    cases reference with
    | attributeType owner index key =>
        simp only [Reference.settle, onClassifier_onClassifier]
        refine onClassifier_congr fun data found => ?_
        simp [extended, modify_append_of_lt _ _ (before data found)]
    | parameterType owner operation index key =>
        simp only [Reference.settle, onClassifier_onClassifier]
        refine onClassifier_congr fun data found => ?_
        simp [extended, modify_append_of_lt _ _ (before data found)]
    | stereotype owner key =>
        cases content : element.content <;>
          simp [Reference.settle, onClassifier, Content.mapClassifier, content]

/-- A change that leaves the content alone, and looks at no more of it than whether it can own. -/
theorem grows_of_content {change : Element → Element}
    (content : ∀ element, (change element).content = element.content)
    (blind : ∀ element other, other.canOwn = element.content.canOwn →
      change { element with content := other } = { change element with content := other }) :
    Grows change where
  keeps := by
    intro reference element fits attributes operations counts
    exact fits attributes operations (by simpa [memberCounts, content] using counts)
  commutes := by
    intro reference target element fits
    cases reference with
    | attributeType owner index key =>
        refine (Eq.trans ?_ (blind element _ ?_).symm)
        · simp [Reference.settle, onClassifier, content]
        · cases element.content <;> rfl
    | parameterType owner operation index key =>
        refine (Eq.trans ?_ (blind element _ ?_).symm)
        · simp [Reference.settle, onClassifier, content]
        · cases element.content <;> rfl
    | stereotype owner key =>
        cases kind : element.content with
        | useCase stereotype? =>
            have changed := blind element (.useCase (some target)) (by rw [kind]; rfl)
            simp [Reference.settle, content, kind, changed]
        | _ => simp [Reference.settle, content, kind]

theorem grows_own (child : ElementId) : Grows (·.own child) := by
  refine grows_of_content (fun element => Model.content_own element child) ?_
  intro element other same
  simp only [Element.own, same]
  split <;> rfl

theorem grows_document (text : String) :
    Grows fun element => { element with documentation := text } :=
  grows_of_content (fun _ => rfl) (fun _ _ _ => rfl)

/-! ### Settling many references -/

section Settle

variable (lookup : String → Option ElementId) {model : Model}

/-- The model with one reference settled, if its key names an element. -/
def settleOne (model : Model) (reference : Reference) : Model :=
  match lookup reference.key with
  | some target => model.modify reference.owner (reference.settle target)
  | none => model

/-- The model with references settled in order. -/
def settleAll (references : List Reference) (model : Model) : Model :=
  references.foldl (settleOne lookup) model

@[simp]
theorem settleAll_append (first second : List Reference) (model : Model) :
    settleAll lookup (first ++ second) model = settleAll lookup second (settleAll lookup first model) :=
  List.foldl_append

/-- Settling one reference keeps every element where it is, with as many members as it has. -/
theorem memberCounts_settleOne (model : Model) (reference : Reference) (id : ElementId) :
    ((settleOne lookup model reference).element? id).map memberCounts =
      (model.element? id).map memberCounts := by
  unfold settleOne
  split
  · rw [Model.element?_modify]
    split
    · cases model.element? id <;> simp [Reference.memberCounts_settle]
    · rfl
  · rfl

/-- What settling one reference leaves as it is, settling many leaves as it is. -/
theorem settleAll_keeps {α : Type} (query : Model → α)
    (keeps : ∀ model reference, query (settleOne lookup model reference) = query model)
    (references : List Reference) (model : Model) :
    query (settleAll lookup references model) = query model := by
  induction references generalizing model with
  | nil => rfl
  | cons reference references ih => exact (ih _).trans (keeps model reference)

theorem memberCounts_settleAll (references : List Reference) (model : Model) (id : ElementId) :
    ((settleAll lookup references model).element? id).map memberCounts =
      (model.element? id).map memberCounts :=
  settleAll_keeps lookup (fun model => (model.element? id).map memberCounts)
    (fun model reference => memberCounts_settleOne lookup model reference id) references model

theorem nextId_settleAll (references : List Reference) (model : Model) :
    (settleAll lookup references model).nextId = model.nextId := by
  refine settleAll_keeps lookup Model.nextId (fun model reference => ?_) references model
  unfold settleOne
  split <;> simp

theorem keys_settleAll (references : List Reference) (model : Model) :
    (settleAll lookup references model).keys = model.keys := by
  refine settleAll_keeps lookup Model.keys (fun model reference => ?_) references model
  unfold settleOne
  split <;> rfl

/-- A reference lands as well in a model whose elements have as many members. -/
theorem lands_of_memberCounts {other : Model} {reference : Reference}
    (same : ∀ id, (other.element? id).map memberCounts = (model.element? id).map memberCounts)
    (lands : reference.Lands model) : reference.Lands other := by
  obtain ⟨element, found, fits⟩ := lands
  have counts := same reference.owner
  rw [found, Option.map_some, Option.map_eq_some_iff] at counts
  obtain ⟨element', found', counts⟩ := counts
  refine ⟨element', found', fun attributes operations has => ?_⟩
  exact fits attributes operations (counts ▸ has)

/-- A change of the model that settling one reference leaves in place, settling many leaves in place. -/
theorem settleAll_commutes (change : Model → Model)
    (commutes : ∀ {model reference}, reference.Lands model →
      settleOne lookup (change model) reference = change (settleOne lookup model reference))
    {references : List Reference} (land : ∀ reference ∈ references, reference.Lands model) :
    settleAll lookup references (change model) = change (settleAll lookup references model) := by
  induction references generalizing model with
  | nil => rfl
  | cons reference references ih =>
      have first := commutes (land reference List.mem_cons_self)
      simp only [settleAll, List.foldl_cons, first]
      refine ih fun later member => ?_
      exact lands_of_memberCounts (memberCounts_settleOne lookup model reference)
        (land later (List.mem_cons_of_mem _ member))

theorem settleOne_modify {change : Element → Element} (grows : Grows change) (id : ElementId)
    {reference : Reference} (lands : reference.Lands model) :
    settleOne lookup (model.modify id change) reference =
      (settleOne lookup model reference).modify id change := by
  unfold settleOne
  split
  · rename_i target _
    by_cases same : reference.owner = id
    · subst same
      rw [Model.modify_modify_self, Model.modify_modify_self]
      refine Model.modify_congr fun element found => ?_
      obtain ⟨element', found', fits⟩ := lands
      cases found.symm.trans found'
      exact grows.commutes reference target element fits
    · exact (Model.modify_modify_of_ne model same _ _).symm
  · rfl

/-- Settling leaves in place what is added to an element afterwards. -/
theorem settleAll_modify {change : Element → Element} (grows : Grows change) (id : ElementId)
    {references : List Reference} (land : ∀ reference ∈ references, reference.Lands model) :
    settleAll lookup references (model.modify id change) =
      (settleAll lookup references model).modify id change :=
  settleAll_commutes lookup (Model.modify · id change) (settleOne_modify lookup grows id) land

theorem lands_modify {change : Element → Element} (grows : Grows change) (id : ElementId)
    {reference : Reference} (lands : reference.Lands model) :
    reference.Lands (model.modify id change) := by
  obtain ⟨element, found, fits⟩ := lands
  by_cases same : id = reference.owner
  · refine ⟨change element, ?_, grows.keeps reference element fits⟩
    rw [Model.element?_modify, if_pos same, found, Option.map_some]
  · refine ⟨element, ?_, fits⟩
    rw [Model.element?_modify, if_neg same, found]

/-- The model with one more element, which no other element owns yet. -/
def pushed (model : Model) (element : Element) : Model :=
  { model with elements := model.elements.push element }

theorem add_eq (model : Model) (parent : ElementId) (name : String) (content : Content) :
    model.add parent name content =
      (pushed model { id := model.nextId, name, parent? := some parent, content }).modify parent
        (·.own model.nextId) := rfl

theorem pushed_modify (model : Model) (element : Element) (change : Element → Element) :
    (pushed model element).modify model.nextId change = pushed model (change element) := by
  simp only [pushed, Model.modify, Model.mk.injEq, true_and, and_true]
  apply Array.toList_inj.mp
  have changed := modify_append_length model.elements.toList [] element change
  simpa [Model.nextId] using changed

theorem lands_pushed (element : Element) {reference : Reference} (lands : reference.Lands model) :
    reference.Lands (pushed model element) := by
  obtain ⟨owner, found, fits⟩ := lands
  refine ⟨owner, ?_, fits⟩
  have known : reference.owner < model.elements.size := (Array.getElem?_eq_some_iff.mp found).1
  simp only [pushed, Model.element?, Array.getElem?_push, Nat.ne_of_lt known, if_false]
  exact found

theorem settleOne_pushed (element : Element) {reference : Reference} (lands : reference.Lands model) :
    settleOne lookup (pushed model element) reference =
      pushed (settleOne lookup model reference) element := by
  obtain ⟨owner, found, _⟩ := lands
  have known : reference.owner < model.elements.size := (Array.getElem?_eq_some_iff.mp found).1
  unfold settleOne
  split
  · simp only [pushed, Model.modify, Model.mk.injEq, true_and, and_true]
    apply Array.toList_inj.mp
    simp [modify_append_of_lt _ _ (show reference.owner < model.elements.toList.length from known)]
  · rfl

theorem settleAll_pushed (element : Element) {references : List Reference}
    (land : ∀ reference ∈ references, reference.Lands model) :
    settleAll lookup references (pushed model element) =
      pushed (settleAll lookup references model) element :=
  settleAll_commutes lookup (pushed · element) (settleOne_pushed lookup element) land

/-- The model with other keys. -/
def withKeys (keys : List (String × ElementId)) (model : Model) : Model :=
  { model with keys }

theorem settleAll_withKeys (references : List Reference) (keys : List (String × ElementId))
    (model : Model) :
    settleAll lookup references (withKeys keys model) =
      withKeys keys (settleAll lookup references model) := by
  induction references generalizing model with
  | nil => rfl
  | cons reference references ih =>
      have first : settleOne lookup (withKeys keys model) reference =
          withKeys keys (settleOne lookup model reference) := by
        unfold settleOne
        split <;> rfl
      simp only [settleAll, List.foldl_cons, first]
      exact ih _

/-- The reference of a new use case settles to the stereotype that its key names. -/
theorem settleAll_stereotype (parent : ElementId) (name : String) (stereotypeKey? : Option String)
    (known : parent < model.nextId) :
    settleAll lookup (stereotypeKey?.toList.map (.stereotype model.nextId))
        (model.add parent name (.useCase none)) =
      model.add parent name (.useCase (stereotypeKey?.bind lookup)) := by
  cases stereotypeKey? with
  | none => rfl
  | some key =>
      simp only [Option.toList_some, List.map_cons, List.map_nil, settleAll, List.foldl_cons,
        List.foldl_nil, settleOne, Option.bind_some]
      rw [show (Reference.stereotype model.nextId key).key = key from rfl]
      cases lookup key with
      | none => rfl
      | some target =>
          have other : parent ≠ model.nextId := Nat.ne_of_lt known
          simp only [add_eq, Reference.owner]
          rw [Model.modify_modify_of_ne _ other]
          rw [pushed_modify]
          rfl

/-- The reference of a new attribute settles to the type that its key names. -/
theorem settleAll_attribute (owner : ElementId) (record : AttributeTag) (index : Nat)
    (last : ∀ element data, model.element? owner = some element →
      element.content.classifier? = some data → data.attributes.length = index) :
    settleAll lookup (record.typeKey?.toList.map (.attributeType owner index))
        (model.modify owner (onClassifier (extended [record.member] [] []))) =
      model.modify owner (onClassifier (extended [record.resolved lookup] [] [])) := by
  cases typeKey : record.typeKey? with
  | none => simp [settleAll, AttributeTag.resolved, resolvedType, typeKey]
  | some key =>
      simp only [Option.toList_some, List.map_cons, List.map_nil, settleAll, List.foldl_cons,
        List.foldl_nil, settleOne]
      rw [show (Reference.attributeType owner index key).key = key from rfl]
      cases target : lookup key with
      | none => simp [AttributeTag.resolved, resolvedType, typeKey, target]
      | some target' =>
          dsimp only [Reference.owner]
          rw [Model.modify_modify_self]
          refine Model.modify_congr fun element found => ?_
          simp only [Reference.settle, onClassifier_onClassifier]
          refine onClassifier_congr fun data member => ?_
          have place := last element data found member
          subst place
          have changed := modify_append_length data.attributes [] record.member
            fun member => { member with type := .element target' }
          simp [extended, AttributeTag.resolved, resolvedType, typeKey, target, changed]

/-- The operation with the type of one parameter settled, if its key names an element. -/
def settleParameter (operation : Operation) (reference : Nat × String) : Operation :=
  match lookup reference.2 with
  | some target =>
    { operation with
      parameters := operation.parameters.modify reference.1 fun parameter =>
        { parameter with type := .element target } }
  | none => operation

/-- The references of a new operation settle one after the other in that operation. -/
theorem settleAll_parameters (owner : ElementId) (operation : Operation) (keys : List (Nat × String))
    (index : Nat)
    (last : ∀ element data, model.element? owner = some element →
      element.content.classifier? = some data → data.operations.length = index) :
    settleAll lookup (keys.map fun (parameter, key) => .parameterType owner index parameter key)
        (model.modify owner (onClassifier (extended [] [operation] []))) =
      model.modify owner (onClassifier (extended [] [keys.foldl (settleParameter lookup) operation] [])) := by
  induction keys generalizing operation with
  | nil => rfl
  | cons reference keys ih =>
      obtain ⟨parameter, key⟩ := reference
      have first : settleOne lookup (model.modify owner (onClassifier (extended [] [operation] [])))
            (.parameterType owner index parameter key) =
          model.modify owner (onClassifier
            (extended [] [settleParameter lookup operation (parameter, key)] [])) := by
        simp only [settleOne, settleParameter]
        rw [show (Reference.parameterType owner index parameter key).key = key from rfl]
        cases lookup key with
        | none => rfl
        | some target =>
            dsimp only [Reference.owner]
            rw [Model.modify_modify_self]
            refine Model.modify_congr fun element found => ?_
            simp only [Reference.settle, onClassifier_onClassifier]
            refine onClassifier_congr fun data member => ?_
            have place := last element data found member
            subst place
            have changed := modify_append_length data.operations [] operation fun operation =>
              { operation with
                parameters := operation.parameters.modify parameter fun parameter =>
                  { parameter with type := .element target } }
            simp [extended, changed]
      simp only [List.map_cons, settleAll, List.foldl_cons, first]
      exact ih _

/-- Once its references are settled, an operation has the resolved parameters. -/
theorem settleParameter_draft (record : OperationRecord) :
    record.keys.foldl (settleParameter lookup) record.draft.operation = record.resolved lookup := by
  have general : ∀ (later : List ParameterTag) (before : List Parameter),
      ((later.zipIdx before.length).flatMap fun placed =>
          placed.1.typeKey?.toList.map (placed.2, ·)).foldl (settleParameter lookup)
        { record.operation with parameters := before ++ later.map ParameterTag.parameter } =
      { record.operation with parameters := before ++ later.map (·.resolved lookup) } := by
    intro later
    induction later with
    | nil => intro before; rfl
    | cons parameter later ih =>
        intro before
        have first : (parameter.typeKey?.toList.map (before.length, ·)).foldl (settleParameter lookup)
              { record.operation with
                parameters := before ++ parameter.parameter :: later.map ParameterTag.parameter } =
            { record.operation with
              parameters := (before ++ [parameter.resolved lookup]) ++ later.map ParameterTag.parameter } := by
          cases typeKey : parameter.typeKey? with
          | none => simp [ParameterTag.resolved, resolvedType, typeKey]
          | some key =>
              cases target : lookup key with
              | none => simp [settleParameter, ParameterTag.resolved, resolvedType, typeKey, target]
              | some target' =>
                  simp [settleParameter, ParameterTag.resolved, resolvedType, typeKey, target,
                    modify_append_length]
        have following := ih (before ++ [parameter.resolved lookup])
        rw [List.length_append, List.length_singleton] at following
        rw [List.zipIdx_cons, List.flatMap_cons, List.foldl_append, List.map_cons, first, following]
        simp
  exact general record.parameters []

end Settle

/-! ### Settled drafts -/

/-- The content of a new element with its stereotype settled. -/
def EntryKind.resolved (lookup : String → Option ElementId) : EntryKind → Content
  | package => .package
  | classifier kind data => .classifier kind data
  | useCase stereotypeKey? => .useCase (stereotypeKey?.bind lookup)

namespace Draft

/-- Every recorded reference lands. -/
def Landed (draft : Draft) : Prop :=
  ∀ reference ∈ draft.references, reference.Lands draft.model

variable (lookup : String → Option ElementId)

/-- The model that a draft stands for as far as it has been read. -/
def settled (draft : Draft) : Model :=
  settleAll lookup draft.references draft.model

variable {draft : Draft} {parent : ElementId}

theorem pushAttribute_model (record : AttributeTag) :
    (draft.pushAttribute parent record).model =
      draft.model.modify parent (onClassifier (extended [record.member] [] [])) :=
  congrArg (draft.model.modifyClassifier parent) (funext fun data => by simp [extended])

theorem pushOperation_model (record : OperationRecord) :
    (draft.pushOperation parent record).model =
      draft.model.modify parent (onClassifier (extended [] [record.draft.operation] [])) :=
  congrArg (draft.model.modifyClassifier parent) (funext fun data => by simp [extended])

theorem pushLiteral_model (literal : Literal) :
    (draft.pushLiteral parent literal).model =
      draft.model.modify parent (onClassifier (extended [] [] [literal])) :=
  congrArg (draft.model.modifyClassifier parent) (funext fun data => by simp [extended])

/-- A settled classifier has as many members as before. -/
theorem classifier_settled {element : Element} {data : Classifier} {id : ElementId}
    (found : (draft.settled lookup).element? id = some element)
    (member : element.content.classifier? = some data) :
    ∃ before, draft.model.classifier? id = some before ∧
      before.attributes.length = data.attributes.length ∧
      before.operations.length = data.operations.length := by
  have counts := memberCounts_settleAll lookup draft.references draft.model id
  rw [show settleAll lookup draft.references draft.model = draft.settled lookup from rfl, found,
    Option.map_some] at counts
  obtain ⟨unsettled, place, same⟩ := Option.map_eq_some_iff.mp counts.symm
  rw [memberCounts, memberCounts, member, Option.map_some, Option.map_eq_some_iff] at same
  obtain ⟨before, classifier, same⟩ := same
  refine ⟨before, ?_, (Prod.mk.inj same).1, (Prod.mk.inj same).2⟩
  rw [Model.classifier?, place, Option.bind_some, classifier]

theorem settled_pushAttribute (landed : draft.Landed) (record : AttributeTag) :
    (draft.pushAttribute parent record).settled lookup =
      (draft.settled lookup).modify parent (onClassifier (extended [record.resolved lookup] [] [])) := by
  simp only [settled, pushAttribute_model]
  rw [pushAttribute, settleAll_append, settleAll_modify lookup (grows_extended ..) parent landed]
  refine settleAll_attribute lookup parent record _ fun element data found member => ?_
  obtain ⟨before, classifier, attributes, -⟩ := classifier_settled lookup found member
  simp [classifier, attributes]

theorem settled_pushOperation (landed : draft.Landed) (record : OperationRecord) :
    (draft.pushOperation parent record).settled lookup =
      (draft.settled lookup).modify parent (onClassifier (extended [] [record.resolved lookup] [])) := by
  simp only [settled, pushOperation_model]
  rw [pushOperation, settleAll_append, settleAll_modify lookup (grows_extended ..) parent landed,
    ← settleParameter_draft]
  refine settleAll_parameters lookup parent record.draft.operation record.keys _
    fun element data found member => ?_
  obtain ⟨before, classifier, -, operations⟩ := classifier_settled lookup found member
  simp [classifier, operations]

theorem settled_pushLiteral (landed : draft.Landed) (literal : Literal) :
    (draft.pushLiteral parent literal).settled lookup =
      (draft.settled lookup).modify parent (onClassifier (extended [] [] [literal])) := by
  simp only [settled, pushLiteral_model]
  exact settleAll_modify lookup (grows_extended ..) parent landed

theorem settled_document (landed : draft.Landed) (text : String) :
    (draft.document parent text).settled lookup =
      (draft.settled lookup).modify parent fun element => { element with documentation := text } :=
  settleAll_modify lookup (grows_document text) parent landed

theorem settled_place (landed : draft.Landed) (known : parent < draft.model.nextId) (entry : Entry) :
    (draft.place parent entry).settled lookup =
      withKeys (entry.key?.toList.map (·, draft.model.nextId) ++ draft.model.keys)
        ((draft.settled lookup).add parent entry.name (entry.kind.resolved lookup)) := by
  have nextId : (draft.settled lookup).nextId = draft.model.nextId :=
    nextId_settleAll lookup draft.references draft.model
  have added : settleAll lookup draft.references
        (draft.model.add parent entry.name entry.kind.content) =
      (draft.settled lookup).add parent entry.name entry.kind.content := by
    rw [add_eq, add_eq, settleAll_modify lookup (grows_own _) parent
      fun reference member => lands_pushed _ (landed reference member),
      settleAll_pushed lookup _ landed, nextId]
    rfl
  have resolved : settleAll lookup (entry.kind.references draft.model.nextId)
        ((draft.settled lookup).add parent entry.name entry.kind.content) =
      (draft.settled lookup).add parent entry.name (entry.kind.resolved lookup) := by
    cases entry.kind with
    | useCase stereotypeKey? =>
        have stereotype := settleAll_stereotype lookup parent entry.name stereotypeKey?
          (nextId ▸ known : parent < (draft.settled lookup).nextId)
        rwa [nextId] at stereotype
    | _ => rfl
  calc (draft.place parent entry).settled lookup
      = settleAll lookup (draft.references ++ entry.kind.references draft.model.nextId)
          (withKeys (entry.key?.toList.map (·, draft.model.nextId) ++ draft.model.keys)
            (draft.model.add parent entry.name entry.kind.content)) := rfl
    _ = _ := by rw [settleAll_append, settleAll_withKeys, settleAll_withKeys, added, resolved]

/-! ### Every recorded reference lands -/

theorem landed_place (landed : draft.Landed) (known : parent < draft.model.nextId) (entry : Entry) :
    (draft.place parent entry).Landed := by
  intro reference recorded
  rcases List.mem_append.mp recorded with earlier | new
  · exact lands_modify (grows_own _) parent (lands_pushed _ (landed reference earlier))
  · cases kind : entry.kind with
    | useCase stereotypeKey? =>
        simp only [kind, EntryKind.references, List.mem_map] at new
        obtain ⟨key, _, rfl⟩ := new
        exact ⟨_, Model.element?_add_new entry.name entry.kind.content known, fun _ _ _ => trivial⟩
    | _ => simp [kind, EntryKind.references] at new

/-- A reference to a member that a change of its owner adds lands in the changed model. -/
theorem lands_member {change : Element → Element} {reference : Reference}
    (known : reference.owner < draft.model.nextId)
    (fits : ∀ element, draft.model.element? reference.owner = some element →
      reference.Fits (change element)) : reference.Lands (draft.model.modify reference.owner change) := by
  obtain ⟨element, found⟩ := Option.isSome_iff_exists.mp (Model.element?_isSome_iff.mpr known)
  refine ⟨change element, ?_, fits element found⟩
  rw [Model.element?_modify, if_pos rfl, found, Option.map_some]

/-- The members that an extended classifier has are those it had and those added. -/
theorem counts_extended {element : Element} {id : ElementId} {added : List Attribute}
    {methods : List Operation} {literals : List Literal} {attributes operations : Nat}
    (found : draft.model.element? id = some element)
    (counts : memberCounts (onClassifier (extended added methods literals) element) =
      some (attributes, operations)) :
    ∃ data, draft.model.classifier? id = some data ∧
      data.attributes.length + added.length = attributes ∧
      data.operations.length + methods.length = operations := by
  rw [memberCounts_onClassifier, Option.map_eq_some_iff] at counts
  obtain ⟨data, classifier, same⟩ := counts
  rw [extended, List.length_append, List.length_append, Prod.mk.injEq] at same
  refine ⟨data, ?_, same.1, same.2⟩
  rw [Model.classifier?, found, Option.bind_some, classifier]

theorem landed_pushAttribute (landed : draft.Landed) (known : parent < draft.model.nextId)
    (record : AttributeTag) : (draft.pushAttribute parent record).Landed := by
  intro reference recorded
  rw [pushAttribute_model]
  rcases List.mem_append.mp recorded with earlier | new
  · exact lands_modify (grows_extended ..) parent (landed reference earlier)
  · obtain ⟨key, _, rfl⟩ := List.mem_map.mp new
    refine lands_member known fun element found attributes operations counts => ?_
    obtain ⟨data, owner, rfl, rfl⟩ := counts_extended found counts
    simp only [Reference.owner] at owner
    simp [owner]

theorem landed_pushOperation (landed : draft.Landed) (known : parent < draft.model.nextId)
    (record : OperationRecord) : (draft.pushOperation parent record).Landed := by
  intro reference recorded
  rw [pushOperation_model]
  rcases List.mem_append.mp recorded with earlier | new
  · exact lands_modify (grows_extended ..) parent (landed reference earlier)
  · obtain ⟨key, _, rfl⟩ := List.mem_map.mp new
    refine lands_member known fun element found attributes operations counts => ?_
    obtain ⟨data, owner, rfl, rfl⟩ := counts_extended found counts
    simp only [Reference.owner] at owner
    simp [owner]

theorem landed_pushLiteral (landed : draft.Landed) (literal : Literal) :
    (draft.pushLiteral parent literal).Landed := by
  intro reference recorded
  rw [pushLiteral_model]
  exact lands_modify (grows_extended ..) parent (landed reference recorded)

theorem landed_document (landed : draft.Landed) (text : String) :
    (draft.document parent text).Landed := fun reference recorded =>
  lands_modify (grows_document text) parent (landed reference recorded)

end Draft

/-! ### Building a resolved model -/

/-- The model with the declarations of an outline performed one after the other below `parent`, every
    member and use case with the element that its key names. -/
def Outline.build (lookup : String → Option ElementId) (model : Model) (parent : ElementId) :
    Outline → Model
  | nil => model
  | element entry inside rest =>
    let placed := withKeys (entry.key?.toList.map (·, model.nextId) ++ model.keys)
      (model.add parent entry.name (entry.kind.resolved lookup))
    rest.build lookup (inside.build lookup placed model.nextId) parent
  | attr record rest =>
    rest.build lookup (model.modify parent (onClassifier (extended [record.resolved lookup] [] []))) parent
  | operation record rest =>
    rest.build lookup (model.modify parent (onClassifier (extended [] [record.resolved lookup] []))) parent
  | literal found rest =>
    rest.build lookup (model.modify parent (onClassifier (extended [] [] [found]))) parent
  | documentation text rest =>
    rest.build lookup (model.modify parent fun element => { element with documentation := text }) parent
  | link _ rest => rest.build lookup model parent

/-- A settled draft grows by what an outline declares, settled; and whatever is recorded lands. -/
theorem settled_layInto (lookup : String → Option ElementId) (outline : Outline) {draft : Draft}
    {parent : ElementId} (landed : draft.Landed) (known : parent < draft.model.nextId) :
    (outline.layInto draft parent).Landed ∧
      (outline.layInto draft parent).settled lookup =
        outline.build lookup (draft.settled lookup) parent := by
  induction outline generalizing draft parent with
  | nil => exact ⟨landed, rfl⟩
  | element entry inside rest insideIH restIH =>
      have placed := Draft.landed_place landed known entry
      have inner := @insideIH _ draft.model.nextId placed (by simp)
      have later : parent < (inside.layInto (draft.place parent entry) draft.model.nextId).model.nextId := by
        rw [nextId_layInto, Draft.nextId_place]
        exact Nat.lt_add_right _ (Nat.lt_succ_of_lt known)
      have outer := restIH inner.1 later
      refine ⟨outer.1, ?_⟩
      have nextId : (draft.settled lookup).nextId = draft.model.nextId :=
        nextId_settleAll lookup draft.references draft.model
      have keys : (draft.settled lookup).keys = draft.model.keys :=
        keys_settleAll lookup draft.references draft.model
      rw [Outline.layInto, outer.2, inner.2, Draft.settled_place lookup landed known]
      simp only [Outline.build, nextId, keys]
  | attr record rest restIH =>
      have following := restIH (Draft.landed_pushAttribute landed known record) (by simpa using known)
      rw [Draft.settled_pushAttribute lookup landed] at following
      exact following
  | operation record rest restIH =>
      have following := restIH (Draft.landed_pushOperation landed known record) (by simpa using known)
      rw [Draft.settled_pushOperation lookup landed] at following
      exact following
  | literal found rest restIH =>
      have following := @restIH (draft.pushLiteral parent found) parent
        (Draft.landed_pushLiteral landed found) (by simpa using known)
      rw [Draft.settled_pushLiteral lookup landed] at following
      exact following
  | documentation text rest restIH =>
      have following := @restIH (draft.document parent text) parent
        (Draft.landed_document landed text) (by simpa using known)
      rw [Draft.settled_document lookup landed] at following
      exact following
  | link found rest restIH => exact @restIH (draft.link found) parent landed known

end Blueprint.Document
