/-
Module: Blueprint.Proofs.Php.Accessors
Purpose: Accessors against the attribute that they serve. They are made from its type and its multiplicity, but
  not from its default, and they refer to its field, whether that is declared as a variable or as a constant. So
  they carry another type where only the default tells that the attribute is an array, and they refer to a field
  that the class does not declare where the attribute is a constant.
Main exports: Scope.TypedByDefault, typeText_withoutDefault_iff, accessor_types_agree_iff, Rendering.variables,
  DeclaresProperty, declaresProperty_iff, accessors_refer_to_property_iff
-/
import Blueprint.Proofs.Php.AssociationEnds
import Blueprint.Proofs.Php.Signature

namespace Blueprint.Php

variable {scope : Scope} {shape : Shape} {style : TypeStyle} {bare : Bool} {rendering : Rendering}
  {subject : Subject} {nested : Fragment} {owner : Classifier} {member : Attribute} {operation : Operation}

/-! ### Types -/

/-- The shape of a member that starts with nothing. -/
def withoutDefault (shape : Shape) : Shape :=
  { shape with default? := none }

/-- Only its default tells that a member is an array: it starts as an empty one, its multiplicity is none of a
    collection, and its type is not written as one. The default is looked at where no multiplicity is given or
    the type is not known. -/
def Scope.TypedByDefault (scope : Scope) (shape : Shape) (bare : Bool) : Prop :=
  shape.default? = some "[]" ∧ shape.multiplicity.isMany = false ∧
    (shape.multiplicity.isAbsent = true ∨ scope.valueType shape bare = "void") ∧
    scope.valueType shape bare ≠ "array"

instance (scope : Scope) (shape : Shape) (bare : Bool) : Decidable (scope.TypedByDefault shape bare) :=
  inferInstanceAs (Decidable (_ ∧ _))

/-- Where a multiplicity is given and the type is known, these two decide and the default does not matter. -/
theorem memberType_of_settled (given : shape.multiplicity.isAbsent = false)
    (known : scope.valueType shape bare ≠ "void") :
    scope.memberType shape style bare =
      if shape.multiplicity.isMany then Scope.collectionOf style (scope.valueType shape bare)
      else scope.valueType shape bare := by
  rw [Scope.memberType, if_pos (by simp [given, known])]

/-- Elsewhere a collection and an empty array to start with make an array, in either style. -/
theorem memberType_of_open
    (unsettled : shape.multiplicity.isAbsent = true ∨ scope.valueType shape bare = "void") :
    scope.memberType shape style bare =
      if shape.default? = some "[]" ∨ shape.multiplicity.isMany = true then "array"
      else scope.valueType shape bare := by
  rw [Scope.memberType, if_neg (by simpa [Decidable.imp_iff_not_or] using unsettled)]
  simp

/-- The word for the object itself is all that is replaced in the type of a member. -/
theorem typeText_some (scope : Scope) (shape : Shape) (style : TypeStyle) (bare : Bool) :
    scope.typeText (some shape) style bare =
      if scope.memberType shape style bare = "object" then "$this" else scope.memberType shape style bare := rfl

/-- Unless only the default tells that the member is an array, the default does not matter. -/
theorem memberType_withoutDefault (other : ¬scope.TypedByDefault shape bare) :
    scope.memberType (withoutDefault shape) style bare = scope.memberType shape style bare := by
  have same : scope.valueType (withoutDefault shape) bare = scope.valueType shape bare := rfl
  by_cases unsettled : shape.multiplicity.isAbsent = true ∨ scope.valueType shape bare = "void"
  · have unsettled' : (withoutDefault shape).multiplicity.isAbsent = true ∨
        scope.valueType (withoutDefault shape) bare = "void" := unsettled
    rw [memberType_of_open unsettled, memberType_of_open unsettled', same]
    by_cases many : shape.multiplicity.isMany = true
    · simp [withoutDefault, many]
    · by_cases starts : shape.default? = some "[]"
      · -- The type is that of an array by itself.
        have array : scope.valueType shape bare = "array" := by
          by_contra different
          exact other ⟨starts, by simpa using many, unsettled, different⟩
        simp [array]
      · simp [withoutDefault, starts]
  · obtain ⟨given, known⟩ := not_or.mp unsettled
    rw [Bool.not_eq_true] at given
    have given' : (withoutDefault shape).multiplicity.isAbsent = false := given
    have known' : scope.valueType (withoutDefault shape) bare ≠ "void" := known
    rw [memberType_of_settled given known, memberType_of_settled given' known', same]
    rfl

section TypedByDefault

variable (default : scope.TypedByDefault shape bare)

include default

theorem typeText_of_typedByDefault : scope.typeText (some shape) style bare = "array" := by
  obtain ⟨starts, -, unsettled, -⟩ := default
  have type : scope.memberType shape style bare = "array" := by
    rw [memberType_of_open unsettled, if_pos (.inl starts)]
  rw [typeText_some, type]
  rfl

theorem typeText_withoutDefault_ne_array :
    scope.typeText (some (withoutDefault shape)) style bare ≠ "array" := by
  obtain ⟨-, single, unsettled, other⟩ := default
  have unsettled' : (withoutDefault shape).multiplicity.isAbsent = true ∨
      scope.valueType (withoutDefault shape) bare = "void" := unsettled
  have type : scope.memberType (withoutDefault shape) style bare = scope.valueType shape bare := by
    rw [memberType_of_open unsettled', if_neg (by simp [withoutDefault, single])]
    rfl
  rw [typeText_some, type]
  split
  · decide
  · exact other

end TypedByDefault

/-- The default decides the type of a member exactly if nothing else tells that the member is an array. -/
theorem typeText_withoutDefault_iff :
    scope.typeText (some (withoutDefault shape)) style bare = scope.typeText (some shape) style bare ↔
      ¬scope.TypedByDefault shape bare := by
  constructor
  · intro same default
    rw [typeText_of_typedByDefault default] at same
    exact typeText_withoutDefault_ne_array default same
  · intro other
    rw [typeText_some, typeText_some, memberType_withoutDefault other]

/-- A setter takes one value. -/
theorem arguments_setter (member : Attribute) :
    (setter member).arguments =
      [{ name := Text.camelize member.name .lower
         documentation := member.documentation
         type := member.type
         multiplicity := member.multiplicity }] := by
  cases place : member.isStatic with
  | true => simp [Operation.arguments, setter, place, Parameter.isResult]
  | false => simp [Operation.arguments, setter, place, Parameter.isResult, Parameter.returning]

/-- The value that a setter takes has the type of the attribute. -/
theorem exists_arguments_setter (member : Attribute) :
    ∃ value, (setter member).arguments = [value] ∧ value.shape = withoutDefault member.shape :=
  ⟨_, arguments_setter member, rfl⟩

/-- A getter takes nothing and returns a value of the type of the attribute. -/
theorem exists_result_getter (member : Attribute) :
    ∃ value, (getter member).arguments = [] ∧ (getter member).result? = some value ∧
      value.shape = withoutDefault member.shape :=
  ⟨_, rfl, rfl, rfl⟩

/-- Types of accessors. A setter takes one value, and a getter returns one. In every scope, style and with every
    way to write elements, the value has the type that the attribute would have without its default; that is the
    type of the attribute itself, unless only the default tells that the attribute is an array. -/
theorem accessor_types_agree_iff (accessor : operation ∈ accessors owner member) (scope : Scope)
    (style : TypeStyle) (bare : Bool) :
    ∃ value, (operation = setter member ∧ operation.arguments = [value] ∨
        operation = getter member ∧ operation.arguments = [] ∧ operation.result? = some value) ∧
      scope.typeText value.shape style bare = scope.typeText (some (withoutDefault member.shape)) style bare ∧
      (scope.typeText value.shape style bare = scope.typeText member.shape style bare ↔
        ¬scope.TypedByDefault member.shape bare) ∧
      (scope.TypedByDefault member.shape bare → scope.typeText member.shape style bare = "array") := by
  obtain ⟨value, passes, shape⟩ : ∃ value, (operation = setter member ∧ operation.arguments = [value] ∨
      operation = getter member ∧ operation.arguments = [] ∧ operation.result? = some value) ∧
      value.shape = withoutDefault member.shape := by
    rcases (mem_accessors.mp accessor).2.1 with rfl | rfl
    · obtain ⟨value, takes, shape⟩ := exists_arguments_setter member
      exact ⟨value, .inl ⟨rfl, takes⟩, shape⟩
    · obtain ⟨value, takes, returns, shape⟩ := exists_result_getter member
      exact ⟨value, .inr ⟨rfl, takes, returns⟩, shape⟩
  refine ⟨value, passes, ?_, ?_, typeText_of_typedByDefault⟩
  · rw [shape]
  · rw [shape]
    exact typeText_withoutDefault_iff

/-- A cart in one namespace holds items of another one, and tags. -/
def market : Model where
  author? := none
  elements := #[
    { id := 0, name := "Project", parent? := none, owned := [1, 3], content := .model },
    { id := 1, name := "App", parent? := some 0, owned := [2], content := .package },
    { id := 2, name := "Cart", parent? := some 1, content := .classifier .classType cart },
    { id := 3, name := "Shop", parent? := some 0, owned := [4], content := .package },
    { id := 4, name := "Item", parent? := some 3, content := .classifier .classType {} }]
  relationships := []
  keys := []
where
  /-- The items, of which there can be many. -/
  items : Attribute :=
    { name := "items", type := .element 4, multiplicity := ⟨"0..*"⟩, default? := some "[]", visibility := .priv }
  /-- The tags, of which only the default tells that there can be many. -/
  tags : Attribute := { name := "tags", type := .primitive "string", default? := some "[]", visibility := .priv }
  /-- The cart itself. -/
  cart : Classifier := { attributes := [items, tags] }

/-- The setter of the items takes what the attribute holds; the getter of the tags returns something else. -/
theorem accessor_types_agree_iff_market :
    setter market.items ∈ accessors market.cart market.items ∧
      getter market.tags ∈ accessors market.cart market.tags ∧
      (∃ value, (setter market.items).arguments = [value] ∧
        Scope.typeText ⟨market, "App"⟩ value.shape .documentation false =
          Scope.typeText ⟨market, "App"⟩ market.items.shape .documentation false) ∧
      ∃ value, (getter market.tags).result? = some value ∧
        Scope.typeText ⟨market, "App"⟩ value.shape .code false ≠
          Scope.typeText ⟨market, "App"⟩ market.tags.shape .code false ∧
        Scope.typeText ⟨market, "App"⟩ market.tags.shape .code false = "array" := by
  have takesItems : setter market.items ∈ accessors market.cart market.items := by decide +kernel
  have returnsTags : getter market.tags ∈ accessors market.cart market.tags := by decide +kernel
  have many : ¬Scope.TypedByDefault ⟨market, "App"⟩ market.items.shape false := by decide +kernel
  have default : Scope.TypedByDefault ⟨market, "App"⟩ market.tags.shape false := by decide +kernel
  obtain ⟨items, passesItems, -, sameItems, -⟩ :=
    accessor_types_agree_iff takesItems ⟨market, "App"⟩ .documentation false
  obtain ⟨tags, passesTags, -, sameTags, array⟩ :=
    accessor_types_agree_iff returnsTags ⟨market, "App"⟩ .code false
  refine ⟨takesItems, returnsTags, ⟨items, ?_, sameItems.mpr many⟩, tags, ?_, ?_, array default⟩
  · rcases passesItems with ⟨-, takes⟩ | ⟨-, none, -⟩
    · exact takes
    · exact absurd none (by decide +kernel)
  · rcases passesTags with ⟨same, -⟩ | ⟨-, -, returns⟩
    · exact absurd same (by decide +kernel)
    · exact returns
  · exact fun same => sameTags.mp same default

/-! ### Fields -/

/-- The member variables of a class: those of its named attributes, and those of ends of associations. -/
def Rendering.variables (rendering : Rendering) (subject : Subject) : List Variable :=
  (subject.classifier.attributes.filter (!·.name.isEmpty)).map .ofAttribute ++
    (rendering.memberEnds subject).map .ofEnd

/-- The class declares a property of the given name, which is a variable and not a constant: one of the class itself
    or one of its objects. -/
def DeclaresProperty (rendering : Rendering) (subject : Subject) (name : String) (isStatic : Bool) : Prop :=
  ∃ field ∈ rendering.variables subject,
    field.name = name ∧ field.isLeaf = false ∧ field.isStatic = isStatic

/-- An end among the members can be reached and has a name that no attribute has. -/
theorem declaresEnd_of_mem_memberEnds {found : AssociationEnd} (chosen : found ∈ rendering.memberEnds subject) :
    subject.DeclaresEnd found := by
  rw [memberEnds_eq] at chosen
  obtain ⟨ends, -, offered⟩ := List.mem_flatMap.mp chosen
  exact of_decide_eq_true (List.mem_filter.mp offered).2

/-- A variable of a class has a name. -/
theorem name_ne_of_mem_variables {field : Variable} (declared : field ∈ rendering.variables subject) :
    field.name ≠ "" := by
  rcases List.mem_append.mp declared with own | across
  · obtain ⟨member, named, rfl⟩ := List.mem_map.mp own
    simpa [Variable.ofAttribute] using (List.mem_filter.mp named).2
  · obtain ⟨found, chosen, rfl⟩ := List.mem_map.mp across
    exact (declaresEnd_of_mem_memberEnds chosen).2.1

/-- The variables stand in the class one after the other, each with its doc block and a blank line behind it. -/
theorem fields_eq (rendering : Rendering) (subject : Subject) :
    rendering.attributeFields subject ++ rendering.endFields subject =
      .concat ((rendering.variables subject).map fun field =>
        rendering.docBlock (rendering.variableDoc field) ++ .ofText field.declaration ++ .blank) := by
  have each : ∀ field ∈ rendering.variables subject, spaced (rendering.field field) =
      rendering.docBlock (rendering.variableDoc field) ++ .ofText field.declaration ++ .blank := by
    intro field declared
    rw [Rendering.field, if_neg (by simpa using name_ne_of_mem_variables declared), spaced]
  rw [← List.map_congr_left each, Rendering.variables, List.map_append, Fragment.concat_append, List.map_map,
    List.map_map]
  rfl

/-- Whether a class declares a property with the name of one of its attributes is told by the attributes: no end of
    an association is declared by such a name. -/
theorem declaresProperty_iff (listed : member ∈ subject.classifier.attributes) (named : member.name ≠ "")
    (isStatic : Bool) : DeclaresProperty rendering subject member.name isStatic ↔
      ∃ other ∈ subject.classifier.attributes,
        other.name = member.name ∧ other.isLeaf = false ∧ other.isStatic = isStatic := by
  constructor
  · rintro ⟨field, declared, same, property, place⟩
    rcases List.mem_append.mp declared with own | across
    · obtain ⟨other, found, rfl⟩ := List.mem_map.mp own
      exact ⟨other, List.mem_of_mem_filter found, same, property, place⟩
    · obtain ⟨found, chosen, rfl⟩ := List.mem_map.mp across
      exact absurd same.symm ((declaresEnd_of_mem_memberEnds chosen).2.2 member listed)
  · rintro ⟨other, found, same, property, place⟩
    have own : other ∈ subject.classifier.attributes.filter (!·.name.isEmpty) :=
      List.mem_filter.mpr ⟨found, by simpa [same] using named⟩
    exact ⟨.ofAttribute other, List.mem_append_left _ (List.mem_map_of_mem own), same, property, place⟩

/-- The variable of an attribute with accessors is private; it is a constant if the attribute is a leaf. -/
theorem declaration_of_hasAccessors (has : hasAccessors member = true) :
    (Variable.ofAttribute member).declaration =
      " ".intercalate ((if member.isLeaf then ["const " ++ Text.upperText member.name]
        else ["private"] ++ (if member.isStatic then ["static"] else []) ++ ["$" ++ member.name]) ++
          (Variable.ofAttribute member).initializer) ++ ";" := by
  have hidden : member.visibility = .priv := by
    simp only [hasAccessors, Bool.and_eq_true, beq_iff_eq] at has
    exact has.1.2
  rw [Variable.declaration, Variable.declarators]
  simp only [Variable.ofAttribute, hidden, Visibility.keyword?, Option.toList_some]

/-- The accessors of the attributes of a class are among its methods. -/
theorem accessor_mem_classMethods (listed : member ∈ subject.classifier.attributes)
    (accessor : operation ∈ accessors subject.classifier member) :
    .ordinary operation ∈ rendering.classMethods subject := by
  have synthesized : operation ∈ rendering.synthesized subject :=
    List.mem_append_left _ (List.mem_append_left _ (List.mem_flatMap.mpr ⟨member, listed, accessor⟩))
  refine List.mem_append_right _ (List.mem_map_of_mem ?_)
  exact List.mem_append_left _ (List.mem_append_left _ synthesized)

/-- Fields of accessors. A class declares the variables of its named attributes and of ends of associations, and it
    has the accessors of its attributes among its methods; these set or return the field of the attribute, which is
    `self::$name` or `$this->name`. The variable of the attribute is private and has the same name, but it is a
    constant if the attribute is a leaf. So the class declares a property that the accessors can refer to exactly if
    one of the attributes of that name, static or not like this one, is no leaf. -/
theorem accessors_refer_to_property_iff (listed : member ∈ subject.classifier.attributes)
    (accessor : operation ∈ accessors subject.classifier member) (rendering : Rendering) (nested : Fragment) :
    rendering.classDeclaration subject nested =
      rendering.elementImports subject ++ rendering.docBlock (rendering.docWithAuthor subject.element.documentation) ++
        .block (rendering.classHeader subject)
          (rendering.traitUses subject ++ .blank ++
            .concat ((rendering.variables subject).map fun field =>
              rendering.docBlock (rendering.variableDoc field) ++ .ofText field.declaration ++ .blank) ++
            .concat ((rendering.classMethods subject).map fun method =>
              spaced (rendering.classMethod subject method)) ++ nested).withoutFinalBlank ∧
    .ordinary operation ∈ rendering.classMethods subject ∧
    (operation.body = fieldOf member ++ " = $" ++ Text.camelize member.name .lower ++ ";" ∨
      operation.body = "return " ++ fieldOf member ++ ";") ∧
    fieldOf member = (if member.isStatic then "self::$" else "$this->") ++ member.name ∧
    .ofAttribute member ∈ rendering.variables subject ∧
    (Variable.ofAttribute member).declaration =
      " ".intercalate ((if member.isLeaf then ["const " ++ Text.upperText member.name]
        else ["private"] ++ (if member.isStatic then ["static"] else []) ++ ["$" ++ member.name]) ++
          (Variable.ofAttribute member).initializer) ++ ";" ∧
    (DeclaresProperty rendering subject member.name member.isStatic ↔
      ∃ other ∈ subject.classifier.attributes,
        other.name = member.name ∧ other.isLeaf = false ∧ other.isStatic = member.isStatic) := by
  obtain ⟨has, kind, -⟩ := mem_accessors.mp accessor
  have filled : (!member.name.isEmpty) = true := by
    simp only [hasAccessors, Bool.and_eq_true] at has
    exact has.1.1
  have named : member ∈ subject.classifier.attributes.filter (!·.name.isEmpty) :=
    List.mem_filter.mpr ⟨listed, filled⟩
  refine ⟨?_, accessor_mem_classMethods listed accessor, ?_, ?_, ?_, declaration_of_hasAccessors has, ?_⟩
  · rw [← fields_eq, ← Fragment.append_assoc]
    rfl
  · rcases kind with rfl | rfl
    · exact .inl rfl
    · exact .inr rfl
  · unfold fieldOf
    split <;> rfl
  · exact List.mem_append_left _ (List.mem_map_of_mem named)
  · exact declaresProperty_iff listed (by simpa using filled) member.isStatic

/-- A box with a size that never changes and a label. -/
def box : Subject where
  id := 0
  element := { id := 0, name := "Box", parent? := none, content := .classifier .classType content }
  classifier := content
where
  /-- The size, which is a constant. -/
  size : Attribute := { name := "size", visibility := .priv, default? := some "3", isLeaf := true }
  /-- The label, which is a variable. -/
  label : Attribute := { name := "label", visibility := .priv }
  /-- What the box is declared from. -/
  content : Classifier := { attributes := [size, label] }

/-- Both attributes have getters, but only one of them is declared as a property. -/
theorem accessors_refer_to_property_iff_box :
    getter box.label ∈ accessors box.classifier box.label ∧ getter box.size ∈ accessors box.classifier box.size ∧
      fieldOf box.label = "$this->label" ∧ fieldOf box.size = "$this->size" ∧
      (Variable.ofAttribute box.label).declaration = "private $label;" ∧
      (Variable.ofAttribute box.size).declaration = "const SIZE = 3;" ∧
      DeclaresProperty (renderingIn default {} "") box "label" false ∧
      ¬DeclaresProperty (renderingIn default {} "") box "size" false := by
  have label : box.label ∈ box.classifier.attributes := List.mem_cons_of_mem _ List.mem_cons_self
  have size : box.size ∈ box.classifier.attributes := List.mem_cons_self
  have returnsLabel : getter box.label ∈ accessors box.classifier box.label := by decide +kernel
  have returnsSize : getter box.size ∈ accessors box.classifier box.size := by decide +kernel
  obtain ⟨-, -, -, labelField, -, labelText, labelProperty⟩ :=
    accessors_refer_to_property_iff label returnsLabel (renderingIn default {} "") .empty
  obtain ⟨-, -, -, sizeField, -, sizeText, sizeProperty⟩ :=
    accessors_refer_to_property_iff size returnsSize (renderingIn default {} "") .empty
  refine ⟨returnsLabel, returnsSize, labelField, sizeField, labelText.trans ?_, sizeText.trans ?_, ?_, ?_⟩
  · decide +kernel
  · decide +kernel
  · exact labelProperty.mpr (by decide +kernel)
  · exact fun declared => absurd (sizeProperty.mp declared) (by decide +kernel)

end Blueprint.Php
