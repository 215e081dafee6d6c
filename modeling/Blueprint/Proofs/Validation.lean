/-
Module: Blueprint.Proofs.Validation
Purpose: What validation decides. The rules of a model are listed in the order in which they are looked at;
  a model is valid when all of them hold, and else the first rule that does not hold is the one reported.
  In the model of a document every relationship joins elements that exist.
Main exports: Multiplicity.IsWellFormed, Model.IsValid, Rule, Model.rules, validate_eq_forM,
  validate_ne_missingElement, validate_reports_first_violation
-/
import Blueprint.Model.Validation
import Blueprint.Proofs.Document.Closure

namespace Blueprint

open Markup (Stream)

/-! ### Valid models -/

/-- A multiplicity is written as nothing, as one of five markers, or in decimal digits, with blanks around
    it. -/
def Multiplicity.IsWellFormed (multiplicity : Multiplicity) : Prop :=
  Text.trim multiplicity.text ∈ ["", "*", "0..*", "1..*", "0..1", "1..1"] ∨
    ∀ char ∈ (Text.trim multiplicity.text).toList, '0' ≤ char ∧ char ≤ '9'

-- The instance goes through the characters of the text; the search may also find one through all characters.
instance (multiplicity : Multiplicity) : Decidable multiplicity.IsWellFormed :=
  have : Decidable (∀ char ∈ (Text.trim multiplicity.text).toList, '0' ≤ char ∧ char ≤ '9') :=
    List.decidableBAll _ _
  inferInstanceAs (Decidable (_ ∨ _))

theorem Multiplicity.isValid_iff (multiplicity : Multiplicity) :
    multiplicity.isValid = true ↔ multiplicity.IsWellFormed := by
  have digits : ∀ char : Char, char.isDigit = true ↔ '0' ≤ char ∧ char ≤ '9' := fun char => by
    simp [Char.isDigit, Char.le_def]
  simp only [isValid, isAbsent, isMany, manyMarkers, oneMarkers, IsWellFormed, Bool.or_eq_true,
    List.contains_iff_mem, List.all_eq_true, digits, String.isEmpty_iff, List.mem_cons, List.not_mem_nil, or_false]
  grind

/-- What the elements that a relationship joins must be. -/
def Relationship.IsSound (model : Model) : Relationship → Prop
  | .generalization source target =>
    source ≠ target ∧
      (model.isClass source ∧ model.isClass target ∨ model.isInterface source ∧ model.isInterface target)
  | .realization source target => (model.classifier? source).isSome ∧ model.isInterface target
  | .dependency source target _ => (model.classifier? source).isSome ∧ (model.classifier? target).isSome
  | .association ends =>
    ends.first.element < model.nextId ∧ ends.second.element < model.nextId ∧
      ends.first.multiplicity.IsWellFormed ∧ ends.second.multiplicity.IsWellFormed

/-- What is asked of a model as a whole. -/
structure Model.IsValid (model : Model) : Prop where
  attributes : ∀ id classifier, model.classifier? id = some classifier →
    ∀ member ∈ classifier.attributes, member.multiplicity.IsWellFormed
  results : ∀ id classifier, model.classifier? id = some classifier →
    ∀ operation ∈ classifier.operations, operation.parameters.countP Parameter.isResult ≤ 1
  parameters : ∀ id classifier, model.classifier? id = some classifier →
    ∀ operation ∈ classifier.operations, ∀ parameter ∈ operation.parameters,
      parameter.multiplicity.IsWellFormed
  relationships : ∀ relationship ∈ model.relationships, relationship.IsSound model

/-! ### Rules -/

/-- The ends of a relationship do not have the fault. -/
def RelationshipFault.IsAvoided (model : Model) (source target : ElementId) : RelationshipFault → Prop
  | .selfGeneralization => source ≠ target
  | .generalizationKinds => model.isClass source ∧ model.isClass target ∨
      model.isInterface source ∧ model.isInterface target
  | .realizationSource => (model.classifier? source).isSome
  | .realizationTarget => model.isInterface target
  | .dependencyKinds => (model.classifier? source).isSome ∧ (model.classifier? target).isSome

instance (model : Model) (source target : ElementId) :
    (fault : RelationshipFault) → Decidable (fault.IsAvoided model source target)
  | .selfGeneralization => inferInstanceAs (Decidable (source ≠ target))
  | .generalizationKinds => inferInstanceAs (Decidable (_ ∨ _))
  | .realizationSource => inferInstanceAs (Decidable (_ = true))
  | .realizationTarget => inferInstanceAs (Decidable (_ = true))
  | .dependencyKinds => inferInstanceAs (Decidable (_ ∧ _))

/-- One thing that is asked of a model: that a multiplicity is well-formed, that an operation returns at
    most one value, that an element exists, or that a relationship avoids a fault. -/
inductive Rule where
  | multiplicity (holder : String) (written : Multiplicity)
  | results (operation : String) (count : Nat)
  | present (id : ElementId)
  | relationship (fault : RelationshipFault) (source target : ElementId)
deriving DecidableEq, Repr

namespace Rule

/-- The model keeps the rule. -/
def Holds (model : Model) : Rule → Prop
  | .multiplicity _ written => written.IsWellFormed
  | .results _ count => count ≤ 1
  | .present id => id < model.nextId
  | .relationship fault source target => fault.IsAvoided model source target

instance (model : Model) : (rule : Rule) → Decidable (rule.Holds model)
  | .multiplicity _ written => inferInstanceAs (Decidable written.IsWellFormed)
  | .results _ count => inferInstanceAs (Decidable (count ≤ 1))
  | .present id => inferInstanceAs (Decidable (id < model.nextId))
  | .relationship fault source target => inferInstanceAs (Decidable (fault.IsAvoided model source target))

/-- What is reported when the rule is broken. -/
def violation (model : Model) : Rule → Violation
  | .multiplicity holder written => .multiplicity holder written.text
  | .results operation count => .severalResults operation count
  | .present id => .missingElement id
  | .relationship fault source target =>
    .relationship fault (model.nameOf source) (model.nameOf target)

/-- Look at one rule. -/
def check (model : Model) (rule : Rule) : Except Violation Unit :=
  if rule.Holds model then .ok () else .error (rule.violation model)

end Rule

/-- An operation returns at most one value before its parameters are looked at, in order. -/
def Operation.rules (owner : String) (operation : Operation) : List Rule :=
  let path := owner ++ "." ++ operation.name ++ "()"
  .results path (operation.parameters.countP Parameter.isResult) ::
    operation.parameters.map fun parameter => .multiplicity (path ++ ":" ++ parameter.name) parameter.multiplicity

/-- The attributes of a classifier come before its operations. -/
def Classifier.rules (owner : String) (classifier : Classifier) : List Rule :=
  (classifier.attributes.map fun member => .multiplicity (owner ++ "." ++ member.name) member.multiplicity) ++
    classifier.operations.flatMap (Operation.rules owner)

/-- Only classifiers have members to be looked at. -/
def Element.rules (element : Element) : List Rule :=
  element.content.classifier?.toList.flatMap (Classifier.rules element.name)

/-- The ends of a relationship exist, the source first, before anything else is asked of them. -/
def Relationship.rules (model : Model) : Relationship → List Rule
  | .generalization source target =>
    [.present source, .present target, .relationship .selfGeneralization source target,
      .relationship .generalizationKinds source target]
  | .realization source target =>
    [.present source, .present target, .relationship .realizationSource source target,
      .relationship .realizationTarget source target]
  | .dependency source target _ =>
    [.present source, .present target, .relationship .dependencyKinds source target]
  | .association ends =>
    let path := model.nameOf ends.first.element ++ "--" ++ model.nameOf ends.second.element
    [.present ends.first.element, .present ends.second.element,
      .multiplicity (path ++ ":" ++ ends.first.name) ends.first.multiplicity,
      .multiplicity (path ++ ":" ++ ends.second.name) ends.second.multiplicity]

/-- The rules of a model: its elements in order, and then its relationships in order. -/
def Model.rules (model : Model) : List Rule :=
  model.elements.toList.flatMap Element.rules ++ model.relationships.flatMap (Relationship.rules model)

/-! ### Validation looks at the rules in order -/

/-- To look at the parts of several things is to look at all parts in order. -/
theorem forM_flatMap {ε α β : Type} (items : List α) (parts : α → List β) (check : β → Except ε Unit) :
    forM (items.flatMap parts) check = forM items fun item => forM (parts item) check := by
  induction items with
  | nil => rfl
  | cons item items ih => rw [List.flatMap_cons, List.forM_append, ih, List.forM_cons]

section Checks

variable (model : Model)

theorem check_multiplicity (holder : String) (multiplicity : Multiplicity) :
    (Rule.multiplicity holder multiplicity).check model = checkMultiplicity holder multiplicity := by
  simp only [checkMultiplicity, multiplicity.isValid_iff]
  rfl

theorem check_results (operation : String) (count : Nat) :
    (Rule.results operation count).check model =
      if count ≤ 1 then .ok () else .error (.severalResults operation count) := rfl

theorem check_present (id : ElementId) :
    (Rule.present id).check model =
      if (model.element? id).isSome then .ok () else .error (.missingElement id) := by
  simp only [Model.element?_isSome_iff]
  rfl

/-- A fault of elements that exist is reported with their names. -/
theorem check_relationship {source target : ElementId} {s t : Element} (fault : RelationshipFault)
    (first : model.element? source = some s) (second : model.element? target = some t) :
    (Rule.relationship fault source target).check model =
      if fault.IsAvoided model source target then .ok () else relationshipViolation fault s t := by
  have violation : (Rule.relationship fault source target).violation model =
      .relationship fault s.name t.name := by
    simp [Rule.violation, Model.nameOf, first, second]
  rw [Rule.check, violation]
  rfl

theorem Operation.validate_eq (owner : String) (operation : Operation) :
    operation.validate owner = forM (operation.rules owner) (Rule.check model) := by
  unfold Operation.validate Operation.rules
  simp only [List.forM_eq_forM, List.forM_cons, List.forM_map, check_multiplicity, check_results]
  by_cases several : operation.parameters.countP Parameter.isResult > 1
  · rw [if_pos several, if_neg (Nat.not_le.mpr several)]
  · rw [if_neg several, if_pos (Nat.not_lt.mp several)]
    rfl

theorem Element.validate_eq (element : Element) :
    element.validate = forM element.rules (Rule.check model) := by
  unfold Element.validate Element.rules
  cases element.content.classifier? with
  | none => rfl
  | some classifier =>
      simp only [Option.toList_some, List.flatMap_singleton, Classifier.validate, Classifier.rules,
        List.forM_eq_forM, List.forM_append, List.forM_map, forM_flatMap, check_multiplicity,
        ← Operation.validate_eq]

/-- Both ends of a relationship are looked for, and then what else is asked of them. -/
theorem endpoints_bind (source target : ElementId) (rest : List Rule)
    (next : Element × Element → Except Violation Unit)
    (agrees : ∀ s t, model.element? source = some s → model.element? target = some t →
      next (s, t) = forM rest (Rule.check model)) :
    (model.endpoints source target).bind next =
      forM (.present source :: .present target :: rest) (Rule.check model) := by
  simp only [List.forM_cons, Model.endpoints, check_present]
  cases first : model.element? source with
  | none => rfl
  | some s =>
      cases second : model.element? target with
      | none => rfl
      | some t => exact agrees s t first second

theorem Relationship.validate_eq (relationship : Relationship) :
    relationship.validate model = forM (relationship.rules model) (Rule.check model) := by
  have classifier : ∀ {id element}, model.element? id = some element →
      model.classifier? id = element.content.classifier? := fun found => by simp [Model.classifier?, found]
  cases relationship with
  | generalization source target =>
      refine endpoints_bind model source target _ _ fun s t first second => ?_
      simp only [List.forM_cons, List.forM_nil, check_relationship model _ first second,
        RelationshipFault.IsAvoided, Model.isClass, Model.isInterface, first, second, Option.any_some]
      by_cases same : source = target
      · simp [same, relationshipViolation, bind, Except.bind]
      · by_cases alike : s.content.isClass ∧ t.content.isClass ∨ s.content.isInterface ∧ t.content.isInterface
        · simp [same, alike, pure, Except.pure, bind, Except.bind]
        · simp [same, alike, relationshipViolation, bind, Except.bind]
  | realization source target =>
      refine endpoints_bind model source target _ _ fun s t first second => ?_
      simp only [List.forM_cons, List.forM_nil, check_relationship model _ first second,
        RelationshipFault.IsAvoided, classifier first, Model.isInterface, second, Option.any_some]
      cases s.content.classifier? <;> cases t.content.isInterface <;> rfl
  | dependency source target mapping? =>
      refine endpoints_bind model source target _ _ fun s t first second => ?_
      simp only [List.forM_cons, List.forM_nil, check_relationship model _ first second,
        RelationshipFault.IsAvoided, classifier first, classifier second]
      cases s.content.classifier? <;> cases t.content.classifier? <;> rfl
  | association ends =>
      refine endpoints_bind model _ _ _ _ fun s t first second => ?_
      simp only [List.forM_cons, List.forM_nil, check_multiplicity, Model.nameOf, first, second]
      simp

/-- Validation looks at the rules of a model in order. -/
theorem validate_eq_forM : model.validate = forM model.rules (Rule.check model) := by
  simp only [Model.validate, Model.rules, List.forM_eq_forM, List.forM_append, forM_flatMap,
    ← Element.validate_eq, ← Relationship.validate_eq]

/-- Looking at rules in order reports the first one that is broken. -/
theorem forM_check_eq_error_iff {rules : List Rule} {violation : Violation} :
    forM rules (Rule.check model) = .error violation ↔
      ∃ before rule after, rules = before ++ rule :: after ∧ (∀ earlier ∈ before, earlier.Holds model) ∧
        ¬rule.Holds model ∧ rule.violation model = violation := by
  induction rules with
  | nil => simp [pure, Except.pure]
  | cons first rules ih =>
      rw [List.forM_cons]
      by_cases holds : first.Holds model
      · have passed : first.check model = .ok () := if_pos holds
        rw [passed]
        refine ih.trans ⟨?_, ?_⟩
        · rintro ⟨before, rule, after, rfl, kept, broken⟩
          exact ⟨first :: before, rule, after, rfl, List.forall_mem_cons.mpr ⟨holds, kept⟩, broken⟩
        · rintro ⟨_ | ⟨_, before⟩, rule, after, same, kept, broken, reported⟩
          · obtain ⟨rfl, rfl⟩ := List.cons.inj same
            exact (broken holds).elim
          · obtain ⟨rfl, rfl⟩ := List.cons.inj same
            exact ⟨before, rule, after, rfl, (List.forall_mem_cons.mp kept).2, broken, reported⟩
      · have failed : first.check model = .error (first.violation model) := if_neg holds
        rw [failed]
        constructor
        · intro reported
          exact ⟨[], first, rules, rfl, by simp, holds, Except.error.inj reported⟩
        · rintro ⟨_ | ⟨_, before⟩, rule, after, same, kept, broken, rfl⟩
          · obtain ⟨rfl, rfl⟩ := List.cons.inj same
            rfl
          · obtain ⟨rfl, rfl⟩ := List.cons.inj same
            exact (holds (kept _ List.mem_cons_self)).elim

/-- Looking at rules in order succeeds when all of them hold. -/
theorem forM_check_eq_ok_iff {rules : List Rule} :
    forM rules (Rule.check model) = .ok () ↔ ∀ rule ∈ rules, rule.Holds model := by
  rw [← List.forM_eq_forM, Document.forM_eq_ok]
  refine forall₂_congr fun rule _ => ?_
  by_cases holds : rule.Holds model <;> simp [Rule.check, holds]

end Checks

/-! ### The rules of a valid model -/

theorem holds_classifier_rules {model : Model} (owner : String) (classifier : Classifier) :
    (∀ rule ∈ classifier.rules owner, rule.Holds model) ↔
      (∀ member ∈ classifier.attributes, member.multiplicity.IsWellFormed) ∧
        ∀ operation ∈ classifier.operations, operation.parameters.countP Parameter.isResult ≤ 1 ∧
          ∀ parameter ∈ operation.parameters, parameter.multiplicity.IsWellFormed := by
  simp only [Classifier.rules, Operation.rules, List.forall_mem_append, List.forall_mem_map,
    List.forall_mem_flatMap, List.forall_mem_cons, Rule.Holds]

/-- The members of a model keep their rules when those of each of its classifiers do. -/
theorem holds_element_rules {model : Model} :
    (∀ rule ∈ model.elements.toList.flatMap Element.rules, rule.Holds model) ↔
      ∀ id classifier, model.classifier? id = some classifier →
        ∀ rule ∈ classifier.rules (model.nameOf id), rule.Holds model := by
  simp only [List.forall_mem_flatMap, Element.rules, Array.mem_toList_iff, Option.mem_toList]
  constructor
  · intro kept id classifier known
    obtain ⟨element, found, content⟩ := Option.bind_eq_some_iff.mp known
    simpa [Model.nameOf, found] using kept element (Array.mem_of_getElem? found) classifier content
  · intro kept element member classifier content
    obtain ⟨id, found⟩ := Array.mem_iff_getElem?.mp member
    have known : model.classifier? id = some classifier :=
      Option.bind_eq_some_iff.mpr ⟨element, found, content⟩
    have name : model.nameOf id = element.name := by
      rw [Model.nameOf, show model.element? id = some element from found]
      rfl
    exact name ▸ kept id classifier known

/-- A relationship keeps its rules when the elements that it joins are what they must be; such elements
    exist. -/
theorem holds_relationship_rules {model : Model} (relationship : Relationship) :
    (∀ rule ∈ relationship.rules model, rule.Holds model) ↔ relationship.IsSound model := by
  have known : ∀ {id} {test : Element → Bool}, (model.element? id).any test → id < model.nextId := by
    intro id test passes
    rw [← Model.element?_isSome_iff]
    cases found : model.element? id with
    | none => simp [found] at passes
    | some element => rfl
  have isClassifier : ∀ {id}, (model.classifier? id).isSome → id < model.nextId := by
    intro id passes
    rw [← Model.element?_isSome_iff]
    cases found : model.element? id with
    | none => simp [Model.classifier?, found] at passes
    | some element => rfl
  cases relationship with
  | generalization source target =>
      simp only [Relationship.rules, List.forall_mem_cons, Rule.Holds, RelationshipFault.IsAvoided,
        Relationship.IsSound]
      constructor
      · rintro ⟨-, -, apart, alike, -⟩
        exact ⟨apart, alike⟩
      · rintro ⟨apart, alike⟩
        refine ⟨?_, ?_, apart, alike, by simp⟩
        · exact alike.elim (fun classes => known classes.1) fun interfaces => known interfaces.1
        · exact alike.elim (fun classes => known classes.2) fun interfaces => known interfaces.2
  | realization source target =>
      simp only [Relationship.rules, List.forall_mem_cons, Rule.Holds, RelationshipFault.IsAvoided,
        Relationship.IsSound]
      constructor
      · rintro ⟨-, -, fromClassifier, toInterface, -⟩
        exact ⟨fromClassifier, toInterface⟩
      · rintro ⟨fromClassifier, toInterface⟩
        exact ⟨isClassifier fromClassifier, known toInterface, fromClassifier, toInterface, by simp⟩
  | dependency source target mapping? =>
      simp only [Relationship.rules, List.forall_mem_cons, Rule.Holds, RelationshipFault.IsAvoided,
        Relationship.IsSound]
      constructor
      · rintro ⟨-, -, classifiers, -⟩
        exact classifiers
      · intro classifiers
        exact ⟨isClassifier classifiers.1, isClassifier classifiers.2, classifiers, by simp⟩
  | association ends =>
      simp [Relationship.rules, Rule.Holds, Relationship.IsSound]

/-- A model is valid when all its rules hold. -/
theorem isValid_iff_rules {model : Model} : model.IsValid ↔ ∀ rule ∈ model.rules, rule.Holds model := by
  rw [Model.rules, List.forall_mem_append, holds_element_rules]
  simp only [holds_classifier_rules, List.forall_mem_flatMap, holds_relationship_rules]
  constructor
  · intro valid
    refine ⟨fun id classifier known => ⟨valid.attributes id classifier known, ?_⟩, valid.relationships⟩
    intro operation declared
    exact ⟨valid.results id classifier known operation declared,
      valid.parameters id classifier known operation declared⟩
  · rintro ⟨members, relationships⟩
    exact {
      attributes := fun id classifier known => (members id classifier known).1
      results := fun id classifier known operation declared =>
        ((members id classifier known).2 operation declared).1
      parameters := fun id classifier known operation declared =>
        ((members id classifier known).2 operation declared).2
      relationships }

/-- Only a relationship asks for an element to exist: one of those that it joins. -/
theorem exists_relationship_of_present {model : Model} {id : ElementId} (asked : .present id ∈ model.rules) :
    ∃ relationship ∈ model.relationships, id ∈ relationship.source? ∨ id ∈ relationship.target? ∨
      ∃ ends, relationship = .association ends ∧ (id = ends.first.element ∨ id = ends.second.element) := by
  rcases List.mem_append.mp asked with ofElement | ofRelationship
  · obtain ⟨element, -, inside⟩ := List.mem_flatMap.mp ofElement
    simp [Element.rules, Classifier.rules, Operation.rules] at inside
  · obtain ⟨relationship, declared, inside⟩ := List.mem_flatMap.mp ofRelationship
    refine ⟨relationship, declared, ?_⟩
    cases relationship <;> simp [Relationship.rules, Relationship.source?, Relationship.target?] at inside ⊢ <;>
      grind

/-! ### What validation decides -/

/-- All elements that the relationships of a document join exist. -/
theorem holds_present_of_readDocument {stream : Stream} {model : Model}
    (read : Document.readDocument (Document.Cursor.ofStream stream) = .ok model) {id : ElementId}
    (asked : .present id ∈ model.rules) : id < model.nextId := by
  obtain ⟨relationship, declared, joined⟩ := exists_relationship_of_present asked
  obtain ⟨source, target, ends⟩ := Document.endpoints_of_readDocument read declared
  rcases joined with joined | joined | ⟨both, isAssociation, rfl | rfl⟩
  · exact source id joined
  · exact target id joined
  · exact (ends both isAssociation).1
  · exact (ends both isAssociation).2

/-- In the model of a document no element is ever reported missing. -/
theorem validate_ne_missingElement {stream : Stream} {model : Model}
    (read : Document.readDocument (Document.Cursor.ofStream stream) = .ok model) (id : ElementId) :
    model.validate ≠ .error (.missingElement id) := by
  intro reported
  rw [validate_eq_forM, forM_check_eq_error_iff] at reported
  obtain ⟨before, rule, after, listed, -, broken, same⟩ := reported
  have asked : rule ∈ model.rules := by simp [listed]
  cases rule with
  | present other =>
      cases same
      exact broken (holds_present_of_readDocument read asked)
  | multiplicity | results | relationship => cases same

/-- Validation decides exactly whether a model is valid, and otherwise reports the first broken rule: the
    elements come in order, with the attributes of each before its operations, and of an operation its
    returned values before its parameters; the relationships follow in order, with the existence of both
    ends before anything else. In the model of a document no element is ever reported missing. -/
theorem validate_reports_first_violation (model : Model) :
    (model.validate = .ok () ↔ model.IsValid) ∧
    (∀ violation, model.validate = .error violation ↔
      ∃ before rule after, model.rules = before ++ rule :: after ∧
        (∀ earlier ∈ before, earlier.Holds model) ∧ ¬rule.Holds model ∧ rule.violation model = violation) ∧
    ∀ stream, Document.readDocument (Document.Cursor.ofStream stream) = .ok model →
      ∀ id, model.validate ≠ .error (.missingElement id) := by
  refine ⟨?_, fun violation => ?_, fun stream read id reported => ?_⟩
  · rw [validate_eq_forM, forM_check_eq_ok_iff, isValid_iff_rules]
  · rw [validate_eq_forM, forM_check_eq_error_iff]
  · exact validate_ne_missingElement read id reported

/-- The document of a till: a sale that returns one value but takes another one too many times over, and
    that extends itself. -/
def tillText : String :=
  "<model><class id='s' name='Sale'><operation name='pay'>" ++
    "<parameter direction='return' multiplicity=' 7 '/><parameter name='coins' multiplicity='few'/>" ++
    "</operation></class><generalization source='s' target='s'/></model>"

/-- The model of that document. -/
def till : Model where
  author? := none
  elements := #[
    { id := 0, name := "", parent? := none, owned := [1], content := .model },
    { id := 1, name := "Sale", parent? := some 0, owned := [], content := .classifier .classType {
        operations := [{ name := "pay", parameters := [
          { name := "", direction := .result, multiplicity := ⟨" 7 "⟩ },
          { name := "coins", multiplicity := ⟨"few"⟩ }] }] } }]
  relationships := [.generalization 1 1]
  keys := [("s", 1)]

theorem till_read : Document.readDocument (Document.Cursor.ofStream (Stream.ofText tillText)) = .ok till :=
  Document.eq_ok_of_toOption (by decide +kernel)

/-- The sale breaks two rules, and the one about its parameter comes first. -/
theorem validate_till : ∃ model,
    Document.readDocument (Document.Cursor.ofStream (Stream.ofText tillText)) = .ok model ∧ ¬model.IsValid ∧
      model.validate = .error (.multiplicity "Sale.pay():coins" "few") ∧
      ∀ id, model.validate ≠ .error (.missingElement id) := by
  obtain ⟨valid, first, present⟩ := validate_reports_first_violation till
  let before : List Rule := [.results "Sale.pay()" 1, .multiplicity "Sale.pay():" ⟨" 7 "⟩]
  have listed : till.rules = before ++ .multiplicity "Sale.pay():coins" ⟨"few"⟩ ::
      [.present 1, .present 1, .relationship .selfGeneralization 1 1,
        .relationship .generalizationKinds 1 1] := by
    decide +kernel
  have kept : ∀ earlier ∈ before, earlier.Holds till := by decide +kernel
  have broken : ¬(Rule.multiplicity "Sale.pay():coins" ⟨"few"⟩).Holds till := by decide +kernel
  have reported := (first _).mpr ⟨before, _, _, listed, kept, broken, rfl⟩
  refine ⟨till, till_read, fun isValid => ?_, reported, present _ till_read⟩
  rw [valid.mpr isValid] at reported
  cases reported

end Blueprint
