/-
Module: Blueprint.Proofs.Document.Resolution
Purpose: What resolution makes of a document, without reference to how it is done. A relation says when
  a member, an element and a relationship of a model settle a declaration, given which element each
  key names. Resolution succeeds exactly when every key that is referred to is declared and every
  association has two ends, and then each part of the model settles its own declaration.
Main exports: Outline.declarations, Outline.Declares, SettledElement, SettledLink, Outline.Closed,
  Outline.SettledIn, resolve_settles
-/
import Blueprint.Proofs.Document.Truncation
import Mathlib.Data.List.Forall2
import Mathlib.Data.List.Nodup

namespace Blueprint.Document

open Blueprint.Markup (Tag Stream)

/-! ### Declarations and keys -/

/-- An element that a document declares, with its identity and the outline of what it holds. -/
structure Declaration where
  id : ElementId
  entry : Entry
  inside : Outline

namespace Outline

/-- The elements that an outline declares, in document order and numbered from `next` on. -/
def declarations (next : ElementId) : Outline → List Declaration
  | nil => []
  | element entry inside rest =>
    ⟨next, entry, inside⟩ ::
      (inside.declarations (next + 1) ++ rest.declarations (next + 1 + inside.size))
  | attr _ rest | operation _ rest | literal _ rest | documentation _ rest | link _ rest =>
    rest.declarations next

/-- The outline of a document declares an element with the given key and identity. -/
def Declares (outline : Outline) (key : String) (id : ElementId) : Prop :=
  ∃ declared ∈ outline.declarations 1, declared.entry.key? = some key ∧ declared.id = id

end Outline

/-- The keys that a relationship refers to. -/
def Link.keys : Link → List String
  | generalization source target | realization source target | dependency source target _ =>
    [source, target]
  | association ends => ends.map AssociationEnd.element

/-- The keys that an outline refers to: those of types, of stereotypes and of relationships. -/
def Outline.references (outline : Outline) : List String :=
  outline.mentions.map Prod.snd ++ outline.links.flatMap Link.keys

/-- Every key that is referred to is declared, and every association has exactly two ends. -/
def Outline.Closed (outline : Outline) : Prop :=
  (∀ key ∈ outline.references, ∃ id, outline.Declares key id) ∧
    ∀ ends, .association ends ∈ outline.links → ends.length = 2

/-! ### Settled parts -/

section Settled

variable (declares : String → ElementId → Prop)

/-- The type of a member: the element that its key names, whatever type is written besides, or else
    the type as it is written. -/
inductive SettledType : (key? : Option String) → (written settled : MemberType) → Prop where
  | element {key : String} {id : ElementId} {written : MemberType} (declared : declares key id) :
      SettledType (some key) written (.element id)
  | written {written : MemberType} : SettledType none written written

/-- The attribute is as its tag says, apart from the type, which is settled. -/
structure SettledAttribute (record : AttributeTag) (settled : Attribute) : Prop where
  type : SettledType declares record.typeKey? record.member.type settled.type
  others : settled = { record.member with type := settled.type }

/-- The parameter is as its tag says, apart from the type, which is settled. -/
structure SettledParameter (record : ParameterTag) (settled : Parameter) : Prop where
  type : SettledType declares record.typeKey? record.parameter.type settled.type
  others : settled = { record.parameter with type := settled.type }

/-- The operation is as it is declared, and each of its parameters is settled. -/
structure SettledOperation (record : OperationRecord) (settled : Operation) : Prop where
  parameters : List.Forall₂ (SettledParameter declares) record.parameters settled.parameters
  others : settled = { record.operation with parameters := settled.parameters }

/-- The content of an element: members in document order, each settled, and for a use case its own
    stereotype. -/
inductive SettledContent (inside : Outline) : EntryKind → Content → Prop where
  | package : SettledContent inside .package .package
  | classifier {kind : ClassifierKind} {data : Classifier} {attributes : List Attribute}
      {operations : List Operation}
      (members : List.Forall₂ (SettledAttribute declares) inside.attributes attributes)
      (methods : List.Forall₂ (SettledOperation declares) inside.operations operations) :
      SettledContent inside (.classifier kind data)
        (.classifier kind { data with attributes, operations, literals := inside.literals })
  | plainUseCase : SettledContent inside (.useCase none) (.useCase none)
  | useCase {key : String} {id : ElementId} (declared : declares key id) :
      SettledContent inside (.useCase (some key)) (.useCase (some id))

/-- The element has the identity and the name of its declaration, and settled content. -/
structure SettledElement (declared : Declaration) (element : Element) : Prop where
  id : element.id = declared.id
  name : element.name = declared.entry.name
  content : SettledContent declares declared.inside declared.entry.kind element.content

/-- The end has the data that it was declared with, and the element that its reference names for its
    element and for its type. -/
def SettledEnd (declared : AssociationEnd String) (settled : AssociationEnd) : Prop :=
  ∃ id, declares declared.element id ∧ settled = declared.withElement id ∧
    settled.shape.type = .element id

/-- The relationship that a link declares, between the elements that its keys name. -/
inductive SettledLink : Link → Relationship → Prop where
  | generalization {source target : String} {first second : ElementId}
      (fromSource : declares source first) (toTarget : declares target second) :
      SettledLink (.generalization source target) (.generalization first second)
  | realization {source target : String} {first second : ElementId}
      (fromSource : declares source first) (toTarget : declares target second) :
      SettledLink (.realization source target) (.realization first second)
  | dependency {source target : String} {mapping? : Option String} {first second : ElementId}
      (fromSource : declares source first) (toTarget : declares target second) :
      SettledLink (.dependency source target mapping?) (.dependency first second mapping?)
  | association {first second : AssociationEnd String} {ends : Association}
      (firstEnd : SettledEnd declares first ends.first)
      (secondEnd : SettledEnd declares second ends.second) :
      SettledLink (.association [first, second]) (.association ends)

end Settled

/-- The model settles the outline: its elements behind the model itself settle the declarations, keys
    name what declares them, and its relationships settle the links, all in document order. -/
structure Outline.SettledIn (outline : Outline) (model : Model) : Prop where
  elements : List.Forall₂ (SettledElement outline.Declares) (outline.declarations 1)
    model.elements.toList.tail
  keys : ∀ key id, model.lookup key = some id ↔ outline.Declares key id
  relationships : List.Forall₂ (SettledLink outline.Declares) outline.links model.relationships

/-! ### Keys and identities -/

theorem keyed_eq (outline : Outline) (next : ElementId) :
    outline.keyed next =
      (outline.declarations next).flatMap fun declared =>
        declared.entry.key?.toList.map (·, declared.id) := by
  induction outline generalizing next with
  | nil => rfl
  | element entry inside rest insideIH restIH =>
      simp [Outline.keyed, Outline.declarations, insideIH, restIH]
  | attr record rest restIH => exact restIH next
  | operation record rest restIH => exact restIH next
  | literal found rest restIH => exact restIH next
  | documentation text rest restIH => exact restIH next
  | link found rest restIH => exact restIH next

theorem keys_eq (outline : Outline) (next : ElementId) :
    (outline.keyed next).map Prod.fst = outline.keys := by
  induction outline generalizing next with
  | nil => rfl
  | element entry inside rest insideIH restIH =>
      simp [Outline.keyed, Outline.keys, insideIH, restIH, Function.comp_def]
  | attr record rest restIH => exact restIH next
  | operation record rest restIH => exact restIH next
  | literal found rest restIH => exact restIH next
  | documentation text rest restIH => exact restIH next
  | link found rest restIH => exact restIH next

/-- Where no key comes twice, looking a key up finds the pair that has it. -/
theorem lookup_iff_mem {pairs : List (String × ElementId)} (distinct : (pairs.map Prod.fst).Nodup)
    (key : String) (id : ElementId) : pairs.lookup key = some id ↔ (key, id) ∈ pairs := by
  induction pairs with
  | nil => simp
  | cons pair pairs ih =>
      obtain ⟨first, other⟩ := pair
      rw [List.map_cons, List.nodup_cons] at distinct
      by_cases same : key = first
      · subst same
        have absent : (key, id) ∉ pairs := fun member =>
          distinct.1 (List.mem_map.mpr ⟨(key, id), member, rfl⟩)
        simp [absent, eq_comm]
      · have differs : (key == first) = false := by simpa using same
        simp [List.lookup_cons, differs, same, ih distinct.2]

/-- In the model of an outline a key names the element that declares it. -/
theorem lookup_unrelated {outline : Outline} (distinct : outline.keys.Nodup) (record : ModelTag)
    (key : String) (id : ElementId) :
    (outline.unrelated record).lookup key = some id ↔ outline.Declares key id := by
  have reversed : (((outline.keyed 1).reverse).map Prod.fst).Nodup := by
    rw [List.map_reverse, keys_eq]
    exact List.nodup_reverse.mpr distinct
  refine (lookup_iff_mem reversed key id).trans ?_
  simp [keyed_eq, Outline.Declares]

/-! ### Every part of the model of an outline is settled -/

section Model

variable {lookup : String → Option ElementId} {declares : String → ElementId → Prop}

theorem settledType_resolved (names : ∀ key id, lookup key = some id → declares key id)
    {key? : Option String} (known : ∀ key ∈ key?, (lookup key).isSome) (written : MemberType) :
    SettledType declares key? written (resolvedType lookup key? written) := by
  cases key? with
  | none => exact .written
  | some key =>
      obtain ⟨id, found⟩ := Option.isSome_iff_exists.mp (known key rfl)
      simp only [resolvedType, Option.bind_some, found]
      exact .element (names key id found)

/-- The members of an outline, resolved, settle what it declares, when the keys they mention are known. -/
theorem settledAttributes (names : ∀ key id, lookup key = some id → declares key id)
    (records : List AttributeTag)
    (known : ∀ record ∈ records, ∀ key ∈ record.typeKey?, (lookup key).isSome) :
    List.Forall₂ (SettledAttribute declares) records (records.map (·.resolved lookup)) := by
  rw [List.forall₂_map_right_iff, List.forall₂_same]
  intro record member
  exact ⟨settledType_resolved names (known record member) _, rfl⟩

theorem settledParameters (names : ∀ key id, lookup key = some id → declares key id)
    (records : List ParameterTag)
    (known : ∀ record ∈ records, ∀ key ∈ record.typeKey?, (lookup key).isSome) :
    List.Forall₂ (SettledParameter declares) records (records.map (·.resolved lookup)) := by
  rw [List.forall₂_map_right_iff, List.forall₂_same]
  intro record member
  exact ⟨settledType_resolved names (known record member) _, rfl⟩

theorem settledOperations (names : ∀ key id, lookup key = some id → declares key id)
    (records : List OperationRecord)
    (known : ∀ record ∈ records, ∀ parameter ∈ record.parameters, ∀ key ∈ parameter.typeKey?,
      (lookup key).isSome) :
    List.Forall₂ (SettledOperation declares) records (records.map (·.resolved lookup)) := by
  rw [List.forall₂_map_right_iff, List.forall₂_same]
  intro record member
  exact ⟨settledParameters names record.parameters (known record member), rfl⟩

/-- Every key that an outline mentions is known. -/
def Outline.Known (lookup : String → Option ElementId) (outline : Outline) : Prop :=
  ∀ mention ∈ outline.mentions, (lookup mention.2).isSome

theorem mention_attribute {outline : Outline} {record : AttributeTag} {key : String}
    (member : record ∈ outline.attributes) (typed : key ∈ record.typeKey?) :
    (ReferenceContext.attributeType, key) ∈ outline.mentions := by
  induction outline with
  | nil => cases member
  | element entry inside rest _ restIH => exact List.mem_append_right _ (restIH member)
  | attr first rest restIH =>
      rcases List.mem_cons.mp member with rfl | later
      · exact List.mem_append_left _ (List.mem_map.mpr ⟨key, by simpa using typed, rfl⟩)
      · exact List.mem_append_right _ (restIH later)
  | operation first rest restIH => exact List.mem_append_right _ (restIH member)
  | literal found rest restIH => exact restIH member
  | documentation text rest restIH => exact restIH member
  | link found rest restIH => exact restIH member

theorem mention_parameter {outline : Outline} {record : OperationRecord} {parameter : ParameterTag}
    {key : String} (member : record ∈ outline.operations) (declared : parameter ∈ record.parameters)
    (typed : key ∈ parameter.typeKey?) :
    (ReferenceContext.parameterType, key) ∈ outline.mentions := by
  induction outline with
  | nil => cases member
  | element entry inside rest _ restIH => exact List.mem_append_right _ (restIH member)
  | attr first rest restIH => exact List.mem_append_right _ (restIH member)
  | operation first rest restIH =>
      rcases List.mem_cons.mp member with rfl | later
      · exact List.mem_append_left _
          (List.mem_map.mpr ⟨key, List.mem_filterMap.mpr ⟨parameter, declared, typed⟩, rfl⟩)
      · exact List.mem_append_right _ (restIH later)
  | literal found rest restIH => exact restIH member
  | documentation text rest restIH => exact restIH member
  | link found rest restIH => exact restIH member

/-- The content of an element settles its declaration, when every key mentioned in it is known. -/
theorem settledContent (names : ∀ key id, lookup key = some id → declares key id) {entry : Entry}
    {inside rest : Outline} (known : (Outline.element entry inside rest).Known lookup) :
    SettledContent declares inside entry.kind (Outline.content lookup entry inside) := by
  have within : inside.Known lookup := fun mention member =>
    known mention (List.mem_append_left _ (List.mem_append_right _ member))
  cases kind : entry.kind with
  | package =>
      simp only [Outline.content, kind]
      exact .package
  | classifier sort data =>
      simp only [Outline.content, kind]
      exact .classifier
        (settledAttributes names _ fun record member key typed =>
          within _ (mention_attribute member typed))
        (settledOperations names _ fun record member parameter declared key typed =>
          within _ (mention_parameter member declared typed))
  | useCase stereotypeKey? =>
      simp only [Outline.content, kind]
      cases stereotypeKey? with
      | none => exact .plainUseCase
      | some key =>
          have mentioned : (ReferenceContext.stereotype, key) ∈
              (Outline.element entry inside rest).mentions := by
            simp [Outline.mentions, kind]
          obtain ⟨id, found⟩ := Option.isSome_iff_exists.mp (known _ mentioned)
          rw [Option.bind_some, found]
          exact .useCase (names key id found)

/-- The elements of an outline settle its declarations, when every key it mentions is known. -/
theorem settledElements (names : ∀ key id, lookup key = some id → declares key id) {outline : Outline}
    (known : outline.Known lookup) (parent next : ElementId) :
    List.Forall₂ (SettledElement declares) (outline.declarations next)
      (outline.elements lookup parent next) := by
  induction outline generalizing parent next with
  | nil => exact .nil
  | element entry inside rest insideIH restIH =>
      have within : inside.Known lookup := fun mention member =>
        known mention (List.mem_append_left _ (List.mem_append_right _ member))
      have behind : rest.Known lookup := fun mention member =>
        known mention (List.mem_append_right _ member)
      exact .cons ⟨rfl, rfl, settledContent names known⟩
        (List.rel_append (insideIH within _ _) (restIH behind _ _))
  | attr record rest restIH =>
      exact restIH (fun mention member => known mention (List.mem_append_right _ member)) parent next
  | operation record rest restIH =>
      exact restIH (fun mention member => known mention (List.mem_append_right _ member)) parent next
  | literal found rest restIH => exact restIH known parent next
  | documentation text rest restIH => exact restIH known parent next
  | link found rest restIH => exact restIH known parent next

end Model

/-! ### Relationships -/

theorem mapM_eq_ok {α β : Type} {step : α → Except DocumentFault β} {items : List α} {results : List β} :
    items.mapM step = .ok results ↔
      List.Forall₂ (fun item result => step item = .ok result) items results := by
  induction items generalizing results with
  | nil => cases results <;> simp [pure, Except.pure]
  | cons item items ih =>
      rw [List.mapM_cons]
      constructor
      · intro done
        obtain ⟨first, stepped, done⟩ := bind_eq_ok.mp done
        obtain ⟨rest, stepped', done⟩ := bind_eq_ok.mp done
        cases done
        exact .cons stepped (ih.mp stepped')
      · intro done
        cases done with
        | cons stepped rest =>
            exact bind_eq_ok.mpr ⟨_, stepped, bind_eq_ok.mpr ⟨_, ih.mpr rest, rfl⟩⟩

theorem forM_eq_ok {ε α : Type} {step : α → Except ε Unit} {items : List α} :
    items.forM step = .ok () ↔ ∀ item ∈ items, step item = .ok () := by
  induction items with
  | nil => simp [List.forM, pure, Except.pure]
  | cons item items ih =>
      rw [List.forM, List.forall_mem_cons]
      constructor
      · intro done
        obtain ⟨_, stepped, done⟩ := bind_eq_ok.mp done
        exact ⟨stepped, ih.mp done⟩
      · rintro ⟨stepped, rest⟩
        exact bind_eq_ok.mpr ⟨(), stepped, ih.mpr rest⟩

section Links

variable {model : Model} {declares : String → ElementId → Prop}
  (names : ∀ key id, model.lookup key = some id ↔ declares key id)

include names

theorem resolveKey_eq_ok {context : ReferenceContext} {key : String} {id : ElementId} :
    Draft.resolveKey model context key = .ok id ↔ declares key id := by
  rw [← names, Draft.resolveKey]
  cases model.lookup key <;> simp

/-- Both ends of a directed relationship are resolved exactly when both keys are declared. -/
theorem resolveBoth_eq_ok {context : ReferenceContext} {source target : String}
    {relate : ElementId → ElementId → Relationship} {relationship : Relationship} :
    (do
      let source ← Draft.resolveKey model context source
      let target ← Draft.resolveKey model context target
      return relate source target : Except DocumentFault Relationship) = .ok relationship ↔
      ∃ first second, declares source first ∧ declares target second ∧
        relate first second = relationship := by
  constructor
  · intro done
    obtain ⟨first, found, done⟩ := bind_eq_ok.mp done
    obtain ⟨second, found', done⟩ := bind_eq_ok.mp done
    cases done
    exact ⟨first, second, (resolveKey_eq_ok names).mp found, (resolveKey_eq_ok names).mp found', rfl⟩
  · rintro ⟨first, second, declared, declared', rfl⟩
    exact bind_eq_ok.mpr ⟨first, (resolveKey_eq_ok names).mpr declared,
      bind_eq_ok.mpr ⟨second, (resolveKey_eq_ok names).mpr declared', rfl⟩⟩

/-- An association end is resolved exactly when its reference is declared. -/
theorem resolveEnd_eq_ok {declared : AssociationEnd String} {settled : AssociationEnd} :
    (do return declared.withElement (← Draft.resolveKey model .associationEnd declared.element) :
        Except DocumentFault AssociationEnd) = .ok settled ↔ SettledEnd declares declared settled := by
  constructor
  · intro done
    obtain ⟨id, found, done⟩ := bind_eq_ok.mp done
    cases done
    exact ⟨id, (resolveKey_eq_ok names).mp found, rfl, rfl⟩
  · rintro ⟨id, found, rfl, _⟩
    exact bind_eq_ok.mpr ⟨id, (resolveKey_eq_ok names).mpr found, rfl⟩

/-- A link is resolved to a relationship exactly when the relationship settles it. -/
theorem resolveLink_eq_ok {link : Link} {relationship : Relationship} :
    Draft.resolveLink model link = .ok relationship ↔ SettledLink declares link relationship := by
  cases link with
  | generalization source target =>
      refine (resolveBoth_eq_ok names).trans ⟨?_, ?_⟩
      · rintro ⟨first, second, fromSource, toTarget, rfl⟩
        exact .generalization fromSource toTarget
      · intro settled
        cases settled with
        | generalization fromSource toTarget => exact ⟨_, _, fromSource, toTarget, rfl⟩
  | realization source target =>
      refine (resolveBoth_eq_ok names).trans ⟨?_, ?_⟩
      · rintro ⟨first, second, fromSource, toTarget, rfl⟩
        exact .realization fromSource toTarget
      · intro settled
        cases settled with
        | realization fromSource toTarget => exact ⟨_, _, fromSource, toTarget, rfl⟩
  | dependency source target mapping? =>
      refine (resolveBoth_eq_ok names).trans ⟨?_, ?_⟩
      · rintro ⟨first, second, fromSource, toTarget, rfl⟩
        exact .dependency fromSource toTarget
      · intro settled
        cases settled with
        | dependency fromSource toTarget => exact ⟨_, _, fromSource, toTarget, rfl⟩
  | association ends =>
      constructor
      · intro done
        obtain ⟨settled, resolved, done⟩ := bind_eq_ok.mp done
        have each := mapM_eq_ok.mp resolved
        split at done
        · rename_i first second
          cases done
          cases each with
          | cons firstEnd each =>
              cases each with
              | cons secondEnd each =>
                  cases each
                  exact .association ((resolveEnd_eq_ok names).mp firstEnd)
                    ((resolveEnd_eq_ok names).mp secondEnd)
        · cases done
      · intro settled
        cases settled with
        | @association first second ends firstEnd secondEnd =>
            refine bind_eq_ok.mpr ⟨[ends.first, ends.second], mapM_eq_ok.mpr ?_, rfl⟩
            exact .cons ((resolveEnd_eq_ok names).mpr firstEnd)
              (.cons ((resolveEnd_eq_ok names).mpr secondEnd) .nil)

end Links

/-- A link can be settled exactly when its keys are declared and, if it is an association, it has two
    ends. -/
theorem exists_settledLink {declares : String → ElementId → Prop} (link : Link) :
    (∃ relationship, SettledLink declares link relationship) ↔
      (∀ key ∈ link.keys, ∃ id, declares key id) ∧ ∀ ends, link = .association ends → ends.length = 2 := by
  constructor
  · rintro ⟨relationship, settled⟩
    have both : ∀ {source target : String} {first second : ElementId}, declares source first →
        declares target second → ∀ key ∈ [source, target], ∃ id, declares key id := by
      intro source target first second fromSource toTarget key member
      rcases List.mem_pair.mp member with rfl | rfl
      · exact ⟨first, fromSource⟩
      · exact ⟨second, toTarget⟩
    cases settled with
    | generalization fromSource toTarget => exact ⟨both fromSource toTarget, by simp⟩
    | realization fromSource toTarget => exact ⟨both fromSource toTarget, by simp⟩
    | dependency fromSource toTarget => exact ⟨both fromSource toTarget, by simp⟩
    | association firstEnd secondEnd =>
        obtain ⟨first, fromFirst, _⟩ := firstEnd
        obtain ⟨second, fromSecond, _⟩ := secondEnd
        refine ⟨both fromFirst fromSecond, ?_⟩
        rintro ends ⟨⟩
        rfl
  · rintro ⟨declared, paired⟩
    cases link with
    | generalization source target =>
        obtain ⟨first, fromSource⟩ := declared source (by simp [Link.keys])
        obtain ⟨second, toTarget⟩ := declared target (by simp [Link.keys])
        exact ⟨_, .generalization fromSource toTarget⟩
    | realization source target =>
        obtain ⟨first, fromSource⟩ := declared source (by simp [Link.keys])
        obtain ⟨second, toTarget⟩ := declared target (by simp [Link.keys])
        exact ⟨_, .realization fromSource toTarget⟩
    | dependency source target mapping? =>
        obtain ⟨first, fromSource⟩ := declared source (by simp [Link.keys])
        obtain ⟨second, toTarget⟩ := declared target (by simp [Link.keys])
        exact ⟨_, .dependency fromSource toTarget⟩
    | association ends =>
        obtain ⟨firstEnd, secondEnd, rfl⟩ := List.length_eq_two.mp (paired ends rfl)
        obtain ⟨first, fromFirst⟩ := declared firstEnd.element (by simp [Link.keys])
        obtain ⟨second, fromSecond⟩ := declared secondEnd.element (by simp [Link.keys])
        exact ⟨.association ⟨firstEnd.withElement first, secondEnd.withElement second⟩,
          .association ⟨first, fromFirst, rfl, rfl⟩ ⟨second, fromSecond, rfl, rfl⟩⟩

/-! ### Resolution -/

theorem exists_forall₂_iff {α β : Type} {relates : α → β → Prop} {items : List α} :
    (∃ results, List.Forall₂ relates items results) ↔ ∀ item ∈ items, ∃ result, relates item result := by
  induction items with
  | nil => exact ⟨by simp, fun _ => ⟨[], .nil⟩⟩
  | cons item items ih =>
      rw [List.forall_mem_cons, ← ih]
      constructor
      · rintro ⟨_, related⟩
        cases related with
        | cons first rest => exact ⟨⟨_, first⟩, ⟨_, rest⟩⟩
      · rintro ⟨⟨result, first⟩, ⟨results, rest⟩⟩
        exact ⟨result :: results, .cons first rest⟩

section Build

variable {outline : Outline} (distinct : outline.keys.Nodup) {record : ModelTag}

include distinct

/-- The keys that an outline mentions are resolved exactly when they are declared. -/
theorem forM_mentions_eq_ok :
    (outline.mentions.forM fun (context, key) => do
      let _ ← Draft.resolveKey (outline.unrelated record) context key) = .ok () ↔
      ∀ key ∈ outline.mentions.map Prod.snd, ∃ id, outline.Declares key id := by
  have names := lookup_unrelated distinct record
  rw [forM_eq_ok, List.forall_mem_map]
  refine forall₂_congr fun mention member => ?_
  obtain ⟨context, key⟩ := mention
  constructor
  · intro resolved
    obtain ⟨id, found, _⟩ := bind_eq_ok.mp resolved
    exact ⟨id, (resolveKey_eq_ok names).mp found⟩
  · rintro ⟨id, declared⟩
    exact bind_eq_ok.mpr ⟨id, (resolveKey_eq_ok names).mpr declared, rfl⟩

/-- The model of an outline exists exactly when the outline is closed. -/
theorem exists_model_iff : (∃ model, outline.model record = .ok model) ↔ outline.Closed := by
  have names := lookup_unrelated distinct record
  constructor
  · rintro ⟨model, built⟩
    obtain ⟨⟨⟩, mentioned, built⟩ := bind_eq_ok.mp built
    obtain ⟨relationships, related, _⟩ := bind_eq_ok.mp built
    have settled : ∀ link ∈ outline.links, ∃ relationship,
        SettledLink outline.Declares link relationship := by
      refine exists_forall₂_iff.mp ⟨relationships, ?_⟩
      exact (mapM_eq_ok.mp related).imp fun link relationship => (resolveLink_eq_ok names).mp
    refine ⟨fun key member => ?_, fun ends member => ?_⟩
    · rcases List.mem_append.mp member with mention | linked
      · exact (forM_mentions_eq_ok distinct).mp mentioned key mention
      · obtain ⟨link, declared, member⟩ := List.mem_flatMap.mp linked
        exact ((exists_settledLink link).mp (settled link declared)).1 key member
    · exact ((exists_settledLink _).mp (settled _ member)).2 ends rfl
  · rintro ⟨declared, paired⟩
    have mentioned := (@forM_mentions_eq_ok outline distinct record).mpr fun key member =>
      declared key (List.mem_append_left _ member)
    have settled : ∀ link ∈ outline.links, ∃ relationship,
        Draft.resolveLink (outline.unrelated record) link = .ok relationship := by
      intro link member
      have keys : ∀ key ∈ link.keys, ∃ id, outline.Declares key id := fun key inLink =>
        declared key (List.mem_append_right _ (List.mem_flatMap.mpr ⟨link, member, inLink⟩))
      have both := (exists_settledLink link).mpr ⟨keys, fun ends same => paired ends (same ▸ member)⟩
      exact both.imp fun relationship => (resolveLink_eq_ok names).mpr
    obtain ⟨relationships, related⟩ := exists_forall₂_iff.mpr settled
    exact ⟨_, bind_eq_ok.mpr ⟨(), mentioned, bind_eq_ok.mpr ⟨relationships, mapM_eq_ok.mpr related, rfl⟩⟩⟩

/-- The model of an outline settles it. -/
theorem settledIn_of_model {model : Model} (built : outline.model record = .ok model) :
    outline.SettledIn model := by
  have names := lookup_unrelated distinct record
  obtain ⟨⟨⟩, mentioned, built⟩ := bind_eq_ok.mp built
  obtain ⟨relationships, related, built⟩ := bind_eq_ok.mp built
  cases built
  have known : outline.Known (outline.unrelated record).lookup := by
    intro mention member
    obtain ⟨id, declared⟩ := (forM_mentions_eq_ok distinct).mp mentioned mention.2
      (List.mem_map.mpr ⟨mention, member, rfl⟩)
    exact Option.isSome_iff_exists.mpr ⟨id, (names mention.2 id).mpr declared⟩
  refine ⟨?_, names, ?_⟩
  · exact settledElements (fun key id => (names key id).mp) known Model.root 1
  · exact (mapM_eq_ok.mp related).imp fun link relationship => (resolveLink_eq_ok names).mp

end Build

/-- Resolution is complete and hits the member that a reference stands in. A document whose reading
    phase succeeds holds a model that ends, with a valid outline. It resolves exactly when every key
    that it refers to is the key of one of its elements and every association has two ends; and then
    each part of the resulting model settles its own declaration. -/
theorem resolve_settles {stream : Stream} {draft : Draft}
    (read : readDraft (Cursor.ofStream stream) = .ok draft) :
    ∃ isEmpty tag inside record outline,
      ModelDocument stream.events isEmpty tag inside ∧ ModelTag.read tag = .ok record ∧
      inside.outline false [] = .ok outline ∧ outline.keys.Nodup ∧
      ((∃ model, draft.resolve = .ok model) ↔ outline.Closed) ∧
      ∀ model, draft.resolve = .ok model → outline.SettledIn model := by
  obtain ⟨isEmpty, tag, inside, document⟩ := document_of_readDraft read
  rw [readDraft_document document] at read
  obtain ⟨record, tagRead, read⟩ := bind_eq_ok.mp read
  obtain ⟨outline, found, read⟩ := bind_eq_ok.mp read
  cases read
  have valid := valid_outline found
  have distinct : outline.keys.Nodup := nodup_keys valid List.nodup_nil
  rw [resolve_layInto valid record]
  exact ⟨isEmpty, tag, inside, record, outline, document, tagRead, found, distinct,
    exists_model_iff distinct, fun model built => settledIn_of_model distinct built⟩

/-- A class whose attribute refers to a class that is declared behind it. -/
theorem resolve_settles_forward :
    ∃ (draft : Draft) (model : Model) (outline : Outline),
      readDraft (Cursor.ofStream (Stream.ofText
        "<model><class id='a'><attribute typeRef='b'/></class><class id='b'/></model>")) = .ok draft ∧
      draft.resolve = .ok model ∧ outline.SettledIn model ∧
      model.classifier? 1 = some { attributes := [{ type := .element 2 }] } := by
  have typed : (readDocument (Cursor.ofStream (Stream.ofText
        "<model><class id='a'><attribute typeRef='b'/></class><class id='b'/></model>"))).toOption.bind
      (·.classifier? 1) = some { attributes := [{ type := .element 2 }] } := by
    decide +kernel
  cases done : readDocument (Cursor.ofStream (Stream.ofText
      "<model><class id='a'><attribute typeRef='b'/></class><class id='b'/></model>")) with
  | error fault => simp [done, Except.toOption] at typed
  | ok model =>
      obtain ⟨draft, read, resolved⟩ := bind_eq_ok.mp done
      obtain ⟨_, _, _, _, outline, _, _, _, _, _, settled⟩ := resolve_settles read
      exact ⟨draft, model, outline, read, resolved, settled model resolved,
        by simpa [done, Except.toOption] using typed⟩

end Blueprint.Document
