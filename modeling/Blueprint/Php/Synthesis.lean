/-
Module: Blueprint.Php.Synthesis
Purpose: Operations that a class gets without declaring them: accessors of its private attributes, the
  methods that its stereotype calls for, and placeholders for what its interfaces and its superclass
  leave to be implemented. What the class declares itself is never added. The model stays as it is.
Main exports: placeholder, accessors, stereotypeMethods, interfaceStubs, abstractOverrides
-/
import Blueprint.Php.Supertype
import Blueprint.Text.Words

namespace Blueprint.Php

/-- The comment that stands for a missing body. -/
def placeholder : String :=
  "// TODO: implement here"

/-! ### Accessors -/

/-- The attribute has accessors: it is named and private, and its value is not derived. -/
def hasAccessors (member : Attribute) : Bool :=
  !member.name.isEmpty && member.visibility == .priv && !member.isDerived

/-- The field of an attribute, as the methods of its class refer to it. -/
def fieldOf (member : Attribute) : String :=
  if member.isStatic then "self::$" ++ member.name else "$this->" ++ member.name

/-- The method that sets an attribute. It returns the object, unless the attribute is static. -/
def setter (member : Attribute) : Operation where
  name := "set" ++ Text.camelize member.name .upper
  isStatic := member.isStatic
  parameters :=
    { name := Text.camelize member.name .lower
      documentation := member.documentation
      type := member.type
      multiplicity := member.multiplicity } ::
    if member.isStatic then [] else [.returning (.primitive "$this")]
  body := fieldOf member ++ " = $" ++ Text.camelize member.name .lower ++ ";"

/-- The word before the name in a getter; truth values are asked for. -/
def getterWord (type : MemberType) : String :=
  if type = .primitive "bool" ∨ type = .primitive "boolean" then "is" else "get"

/-- The method that returns an attribute. -/
def getter (member : Attribute) : Operation where
  name := getterWord member.type ++ Text.camelize member.name .upper
  isStatic := member.isStatic
  parameters := [{ Parameter.returning member.type with multiplicity := member.multiplicity }]
  body := "return " ++ fieldOf member ++ ";"

/-- The accessors of an attribute that its owner does not declare. -/
def accessors (owner : Classifier) (member : Attribute) : List Operation :=
  if hasAccessors member then
    [setter member, getter member].filter fun operation => !owner.declares operation.name
  else []

/-! ### Stereotypes -/

/-- A method that a tag calls for. -/
structure StereotypeMethod where
  name : String
  type : String
  body : String

/-- The method that a tag calls for, in any case of letters. -/
def stereotypeMethod? (tag : String) : Option StereotypeMethod :=
  match Text.lowerText tag with
  | "iteratoraggregate" =>
    some ⟨"getIterator", "\\ArrayIterator", "return new \\ArrayIterator([]);"⟩
  | "countable" => some ⟨"count", "int", "return 0;"⟩
  | _ => none

/-- The operation of a stereotype method. An abstract class leaves it abstract. -/
def StereotypeMethod.operation (method : StereotypeMethod) (owner : Classifier) : Operation where
  name := method.name
  isAbstract := owner.isAbstract
  parameters := [.returning (.primitive method.type)]
  body := placeholder ++ "\n" ++ method.body

/-- The methods that the tags of a classifier call for, each once. -/
def stereotypeMethods (owner : Classifier) : List Operation :=
  (owner.tags.filterMap stereotypeMethod?).foldl
    (fun methods method =>
      if owner.declares method.name || methods.any (·.name == method.name) then methods
      else methods ++ [method.operation owner])
    []

/-! ### Placeholders -/

/-- The operation as a class has to implement it: not abstract and without a body. -/
def concrete (operation : Operation) : Operation :=
  { operation with isAbstract := false, body := "" }

/-- The operations of an element's interfaces that it does not declare itself. -/
def interfaceStubs (model : Model) (id : ElementId) : List Operation :=
  match model.classifier? id with
  | none => []
  | some owner =>
    let required := (interfacesOf model id).flatMap fun target =>
      ((model.classifier? target).map Classifier.operations).getD []
    (required.filter fun operation => !owner.declares operation.name).map concrete

/-- The abstract operations of an element's superclass that it does not declare itself. -/
def abstractOverrides (model : Model) (id : ElementId) : List Operation :=
  match model.classifier? id, (parentClass? model id).bind model.classifier? with
  | some owner, some parent =>
    (parent.operations.filter fun operation =>
      operation.isAbstract && !owner.declares operation.name).map concrete
  | _, _ => []

end Blueprint.Php
