/-
Module: Blueprint.Proofs.Document.Description
Purpose: What a text declares. A text describes an outline when it shows a forest that has this outline, whatever
  keys have been taken before, as long as none of the outline is among them. Each kind of declaration is described
  by its tag with what stands inside and behind it. The text of a model that describes an outline in which no key
  comes twice is read to the model of the outline.
Main exports: Describes, Describes.lines, ofDocument_describes
-/
import Blueprint.Proofs.Document.Written

namespace Blueprint.Document

/-- The text shows a forest that has the outline wherever no key of the outline has been taken. -/
def Describes (inClassifier : Bool) (written : List Char) (outline : Outline) : Prop :=
  ∃ forest : Forest, forest.Shows written ∧
    ∀ taken, (taken ++ outline.keys).Nodup → forest.outline inClassifier taken = .ok outline

variable {inClassifier : Bool} {written within : List Char} {outline inside rest : Outline} {name : String}
  {values : List (String × String)}

/-- Where no key of an element has been taken, its own can be, then those of what it holds, and then those of what
    comes behind it. -/
theorem Outline.fresh_element {entry : Entry} {taken : List String}
    (fresh : (taken ++ (Outline.element entry inside rest).keys).Nodup) :
    takeKey entry.key? taken = .ok (taken ++ entry.key?.toList) ∧
      (taken ++ entry.key?.toList ++ inside.keys).Nodup ∧
      (taken ++ entry.key?.toList ++ inside.keys ++ rest.keys).Nodup := by
  have behind : (taken ++ entry.key?.toList ++ inside.keys ++ rest.keys).Nodup := by
    simpa [Outline.keys] using fresh
  have held := (List.nodup_append.mp behind).1
  refine ⟨?_, held, behind⟩
  cases key : entry.key? with
  | none => simp [takeKey]
  | some key' =>
      rw [key] at held
      have absent : key' ∉ taken := fun member =>
        (List.nodup_append.mp (List.nodup_append.mp held).1).2.2 key' member key' (by simp) rfl
      simp [takeKey, absent]

namespace Describes

theorem nil : Describes inClassifier [] .nil :=
  ⟨.nil, .nil, fun _ _ => rfl⟩

/-- Text in front declares nothing. -/
theorem text {content : String} (filled : content ≠ "") (plain : ∀ c ∈ content.toList, c ≠ '<' ∧ c ≠ '&')
    (apart : BeginsTag written) (later : Describes inClassifier written outline) :
    Describes inClassifier (content.toList ++ written) outline := by
  obtain ⟨forest, shows_, has⟩ := later
  exact ⟨_, .text filled plain apart shows_, has⟩

/-- A package with what it holds. -/
theorem package {record : PackageTag} (plain : IsPlainTag "package" values)
    (read : PackageTag.read (tagOf "package" values) = .ok record) (held : Describes false within inside)
    (later : Describes inClassifier written rest) :
    Describes inClassifier
      ('<' :: (tagText "package" values ++ '>' :: (within ++ '<' :: '/' :: ("package".toList ++ '>' :: written))))
      (.element ⟨record.name, record.key?, .package⟩ inside rest) := by
  obtain ⟨inner, showsInner, hasInner⟩ := held
  obtain ⟨forest, shows_, has⟩ := later
  refine ⟨_, .element plain showsInner shows_, fun taken fresh => ?_⟩
  obtain ⟨free, freshInside, freshRest⟩ := Outline.fresh_element fresh
  have kind : TagKind.ofName (tagOf "package" values).name = .package := rfl
  simp only [Forest.outline, declaring, kind, read, free, hasInner _ freshInside, has _ freshRest, bind, Except.bind]
  rfl

/-- A classifier with what it holds. -/
theorem classifier {record : ClassifierTag} (kind : TagKind.ofName name = .classifier)
    (plain : IsPlainTag name values) (read : ClassifierTag.read (tagOf name values) = .ok record)
    (held : Describes true within inside) (later : Describes inClassifier written rest) :
    Describes inClassifier
      ('<' :: (tagText name values ++ '>' :: (within ++ '<' :: '/' :: (name.toList ++ '>' :: written))))
      (.element
        ⟨record.name, record.key?, .classifier (classifierKind name record.classifier) record.classifier⟩
        inside rest) := by
  obtain ⟨inner, showsInner, hasInner⟩ := held
  obtain ⟨forest, shows_, has⟩ := later
  refine ⟨_, .element plain showsInner shows_, fun taken fresh => ?_⟩
  obtain ⟨free, freshInside, freshRest⟩ := Outline.fresh_element fresh
  have kind' : TagKind.ofName (tagOf name values).name = .classifier := kind
  simp only [Forest.outline, declaring, kind', read, free, hasInner _ freshInside, has _ freshRest, bind,
    Except.bind]
  rfl

/-- An attribute without documentation. -/
theorem attr {record : AttributeTag} (plain : IsPlainTag "attribute" values)
    (read : attributeOf (tagOf "attribute" values) .nil = .ok record) (later : Describes true written rest) :
    Describes true ('<' :: (tagText "attribute" values ++ '/' :: '>' :: written)) (.attr record rest) := by
  obtain ⟨forest, shows_, has⟩ := later
  refine ⟨_, .empty plain shows_, fun taken fresh => ?_⟩
  have kind : TagKind.ofName (tagOf "attribute" values).name = .attr := rfl
  simp only [Forest.outline, declaring, kind, read, has taken fresh, bind, Except.bind]
  rfl

/-- An operation with what is said inside it. -/
theorem operation {operation : Operation} {record : OperationRecord} {inner : Forest}
    (plain : IsPlainTag "operation" values) (read : readOperationTag (tagOf "operation" values) = .ok operation)
    (held : inner.Shows within) (readInner : inner.operation { operation } = .ok record)
    (later : Describes true written rest) :
    Describes true
      ('<' :: (tagText "operation" values ++ '>' ::
        (within ++ '<' :: '/' :: ("operation".toList ++ '>' :: written))))
      (.operation record rest) := by
  obtain ⟨forest, shows_, has⟩ := later
  refine ⟨_, .element plain held shows_, fun taken fresh => ?_⟩
  have kind : TagKind.ofName (tagOf "operation" values).name = .operation := rfl
  simp only [Forest.outline, declaring, kind, read, readInner, has taken fresh, bind, Except.bind]
  rfl

/-- A directed relationship. -/
theorem directed {link : Link} (kind : TagKind.ofName name = .directed) (plain : IsPlainTag name values)
    (read : linkOf (tagOf name values) = .ok link) (later : Describes inClassifier written rest) :
    Describes inClassifier ('<' :: (tagText name values ++ '/' :: '>' :: written)) (.link link rest) := by
  obtain ⟨forest, shows_, has⟩ := later
  refine ⟨_, .empty plain shows_, fun taken fresh => ?_⟩
  have kind' : TagKind.ofName (tagOf name values).name = .directed := kind
  simp only [Forest.outline, declaring, kind', read, has taken fresh, bind, Except.bind]
  rfl

/-- Lines that each describe one declaration, up to the end of the line before, describe the declarations one after
    the other. -/
theorem lines {α : Type} {line : α → String} {declare : α → Outline → Outline}
    (describes : ∀ item written rest, Describes inClassifier ('\n' :: written) rest →
      Describes inClassifier ('\n' :: ((line item).toList ++ written)) (declare item rest))
    (items : List α) (last : Describes inClassifier ('\n' :: written) rest) :
    Describes inClassifier ('\n' :: ((String.join (items.map line)).toList ++ written))
      (items.foldr declare rest) := by
  induction items with
  | nil => exact last
  | cons item items ih =>
      have first := describes item _ _ ih
      rwa [← List.append_assoc, ← String.toList_append, ← String.join_cons] at first

end Describes

/-- A document that describes what a model holds, no key twice, is read to the model of the outline. -/
theorem ofDocument_describes {document : String} {record : ModelTag} {after : List Char} {behind : Forest}
    (plain : IsPlainTag "model" values) (read : ModelTag.read (tagOf "model" values) = .ok record)
    (held : Describes false within outline) (distinct : outline.keys.Nodup) (later : behind.Shows after)
    (text : document.toList =
      '<' :: (tagText "model" values ++ '>' :: (within ++ '<' :: '/' :: ("model".toList ++ '>' :: after)))) :
    Model.ofDocument document = outline.model record := by
  obtain ⟨forest, shows_, has⟩ := held
  rw [ofDocument_shows plain shows_ later text, modelOf, read]
  simp only [has [] (by simpa using distinct), bind, Except.bind]

end Blueprint.Document
