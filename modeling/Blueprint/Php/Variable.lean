/-
Module: Blueprint.Php.Variable
Purpose: Member variables. Attributes and the ends of associations are declared in the same way; what the
  declaration needs of either is a variable. A leaf is declared as a constant.
Main exports: Variable, Variable.ofAttribute, Variable.ofEnd, Rendering.field
-/
import Blueprint.Php.Doc

namespace Blueprint.Php

/-- A member variable, whatever it stands for. -/
structure Variable where
  name : String
  documentation : String
  shape : Shape
  visibility : Visibility
  isStatic : Bool
  isLeaf : Bool
deriving DecidableEq, Repr

namespace Variable

/-- The variable of an attribute. -/
def ofAttribute (member : Attribute) : Variable :=
  ⟨member.name, member.documentation, member.shape, member.visibility, member.isStatic, member.isLeaf⟩

/-- The variable of an association end. -/
def ofEnd (associationEnd : AssociationEnd) : Variable :=
  ⟨associationEnd.name, associationEnd.documentation, associationEnd.shape,
    associationEnd.visibility, associationEnd.isStatic, associationEnd.isLeaf⟩

/-- The words that declare the variable, without its value. -/
def declarators (field : Variable) : List String :=
  if field.isLeaf then ["const " ++ Text.upperText field.name]
  else
    field.visibility.keyword?.toList ++ (if field.isStatic then ["static"] else []) ++
      ["$" ++ field.name]

/-- The value that the variable starts with; collections start empty. -/
def initializer (field : Variable) : List String :=
  match field.shape.default?.filter (!·.isEmpty) with
  | some value => ["= " ++ value]
  | none => if field.shape.multiplicity.isMany then ["= []"] else []

/-- The declaration of the variable. -/
def declaration (field : Variable) : String :=
  " ".intercalate (field.declarators ++ field.initializer) ++ ";"

end Variable

/-- The doc text of a variable: its type and what is said about it. -/
def Rendering.variableDoc (rendering : Rendering) (field : Variable) : String :=
  "@var " ++ rendering.typeText field.shape .documentation true ++ " " ++
    Text.trim field.documentation

/-- The declaration of a variable with its doc block; a variable without a name is left out. -/
def Rendering.field (rendering : Rendering) (member : Variable) : Fragment :=
  if member.name.isEmpty then .empty
  else rendering.docBlock (rendering.variableDoc member) ++ .ofText member.declaration

end Blueprint.Php
