/-
Module: Blueprint.Php.TypeText
Purpose: How the type of a member is written, in doc blocks and in code. An element is named as it is
  seen from the namespace of the unit, a type that the model does not describe is written as it
  stands, and a member without a usable type is void. Collections are written as such in doc blocks
  and as arrays in code.
Main exports: TypeStyle, Scope, Scope.seen, Scope.typeText, isHintable, defaultReturn?
-/
import Blueprint.Php.Name

namespace Blueprint.Php

/-- Where a type is written. -/
inductive TypeStyle where
  | documentation
  | code
deriving DecidableEq, Repr

/-- The model, seen from a namespace. -/
structure Scope where
  model : Model
  namespaceName : String

/-- The types that are not accepted as parameter hints. -/
def unhintableTypes : List String :=
  ["bool", "boolean", "int", "integer", "float", "double", "string", "resource", "void", "mixed"]

namespace Scope

/-- The name of an element as seen from the scope: bare in its own namespace, absolute elsewhere. -/
def seen (scope : Scope) (id : ElementId) : String :=
  if namespaceOf scope.model id = scope.namespaceName then scope.model.nameOf id
  else separator ++ qualifiedName scope.model id

/-- The type of a single value, void when it is not known. With `bare`, an element is written without
    its namespace, unless it stands at the end of an association. -/
def valueType (scope : Scope) (shape : Shape) (bare : Bool) : String :=
  match shape.type with
  | .element id =>
    if (scope.model.nameOf id).isEmpty then "void"
    else if bare && !shape.isEnd then scope.model.nameOf id
    else scope.seen id
  | .primitive name => if Text.isBlankText name then "void" else name
  | .untyped => "void"

/-- The type of a collection of values of a type. -/
def collectionOf (style : TypeStyle) (type : String) : String :=
  match style with
  | .documentation => type ++ "[]"
  | .code => "array"

/-- The type of a member, before the word for the object itself is replaced. A collection of unknown
    values is an array, and so is a member that starts as an empty array. -/
def memberType (scope : Scope) (shape : Shape) (style : TypeStyle) (bare : Bool) : String :=
  let type := scope.valueType shape bare
  if !shape.multiplicity.isAbsent && type != "void" then
    if shape.multiplicity.isMany then collectionOf style type else type
  else if shape.default? == some "[]" || shape.multiplicity.isMany then "array"
  else type

/-- The type of a member as written; no member at all is void. -/
def typeText (scope : Scope) (shape? : Option Shape) (style : TypeStyle) (bare : Bool) : String :=
  match shape? with
  | none => "void"
  | some shape =>
    let type := scope.memberType shape style bare
    if type = "object" then "$this" else type

end Scope

/-- The type may be written as a parameter hint. -/
def isHintable (type : String) : Bool :=
  !unhintableTypes.contains type

/-- The statement that returns a placeholder for a value of the type, if there is a value at all. -/
def defaultReturn? (type : String) : Option String :=
  if type = "void" then none
  else if ["bool", "boolean"].contains type then some "return false;"
  else if ["int", "integer", "long", "short", "byte"].contains type then some "return 0;"
  else if ["float", "double"].contains type then some "return 0.0;"
  else if type = "char" then some "return '0';"
  else if type = "string" then some "return \"\";"
  else if type = "array" then some "return [];"
  else if type = "$this" then some "return $this;"
  else if type = "create" then some "return self::create();"
  else some "return null;"

end Blueprint.Php
