/-
Module: Blueprint.Model.Member
Purpose: The members of a classifier: attributes, operations with their parameters, literals. A
  member is owned by its classifier or operation and is never referred to, so it has no identity of
  its own. What decides how the type of a member is written is collected in its shape.
Main exports: ElementId, Visibility, Direction, MemberType, Multiplicity, Shape, Attribute,
  Parameter, Operation, Literal
-/
import Blueprint.Text.Blank
import Blueprint.Text.Case

namespace Blueprint

/-- An element of a model, by its place in the order of creation. -/
abbrev ElementId := Nat

/-- An element as messages show it. -/
def ElementId.label (id : ElementId) : String :=
  "#" ++ toString id

/-- Who may use a member. -/
inductive Visibility where
  | pub
  | prot
  | priv
  | pkg
deriving DecidableEq, Repr, Inhabited

/-- The visibility with the given name, in any case and with blanks around it. -/
def Visibility.ofName? (name : String) : Option Visibility :=
  [("public", .pub), ("protected", .prot), ("private", .priv), ("package", .pkg)].lookup
    (Text.lowerText (Text.trim name))

/-- The name of a visibility in a model. -/
def Visibility.name : Visibility → String
  | .pub => "public"
  | .prot => "protected"
  | .priv => "private"
  | .pkg => "package"

/-- The keyword of a visibility; members that the package may use have none. -/
def Visibility.keyword? : Visibility → Option String
  | .pub => some "public"
  | .prot => some "protected"
  | .priv => some "private"
  | .pkg => none

/-- Which way a parameter passes its value. -/
inductive Direction where
  | input
  | inputOutput
  | output
  | result
deriving DecidableEq, Repr, Inhabited

/-- The direction with the given name, in any case and with blanks around it. -/
def Direction.ofName? (name : String) : Option Direction :=
  [("in", .input), ("inout", .inputOutput), ("out", .output), ("return", .result)].lookup
    (Text.lowerText (Text.trim name))

/-- The name of a direction in a model. -/
def Direction.name : Direction → String
  | .input => "in"
  | .inputOutput => "inout"
  | .output => "out"
  | .result => "return"

/-- The type of a member: none, one that the model does not describe, or one of its elements. -/
inductive MemberType where
  | untyped
  | primitive (name : String)
  | element (id : ElementId)
deriving DecidableEq, Repr, Inhabited

/-- How many values a member holds, as written in the model. -/
structure Multiplicity where
  text : String
deriving DecidableEq, Repr

instance : Inhabited Multiplicity := ⟨⟨""⟩⟩

namespace Multiplicity

/-- The texts that stand for a collection. -/
def manyMarkers : List String :=
  ["0..*", "1..*", "*"]

/-- The texts that stand for at most or exactly one value. -/
def oneMarkers : List String :=
  ["0..1", "1..1"]

/-- No multiplicity was given. -/
def isAbsent (multiplicity : Multiplicity) : Bool :=
  (Text.trim multiplicity.text).isEmpty

/-- The multiplicity stands for a collection. -/
def isMany (multiplicity : Multiplicity) : Bool :=
  manyMarkers.contains (Text.trim multiplicity.text)

/-- The multiplicity is absent, a known marker or a number in decimal digits. -/
def isValid (multiplicity : Multiplicity) : Bool :=
  let value := Text.trim multiplicity.text
  multiplicity.isAbsent || multiplicity.isMany || oneMarkers.contains value ||
    value.toList.all Char.isDigit

end Multiplicity

/-- What decides how the type of a member is written. -/
structure Shape where
  type : MemberType
  multiplicity : Multiplicity
  default? : Option String
  isEnd : Bool
deriving DecidableEq, Repr

/-- An attribute of a classifier. A leaf attribute is a constant; a derived one has no accessors. -/
structure Attribute where
  name : String := ""
  documentation : String := ""
  type : MemberType := .untyped
  multiplicity : Multiplicity := ⟨""⟩
  default? : Option String := none
  visibility : Visibility := .pub
  isStatic : Bool := false
  isLeaf : Bool := false
  isDerived : Bool := false
deriving DecidableEq, Repr, Inhabited

/-- The shape of an attribute. -/
def Attribute.shape (member : Attribute) : Shape :=
  ⟨member.type, member.multiplicity, member.default?, false⟩

/-- A parameter of an operation. The value that the operation returns is a parameter, too. -/
structure Parameter where
  name : String := ""
  documentation : String := ""
  type : MemberType := .untyped
  multiplicity : Multiplicity := ⟨""⟩
  default? : Option String := none
  direction : Direction := .input
deriving DecidableEq, Repr, Inhabited

namespace Parameter

/-- The shape of a parameter. -/
def shape (parameter : Parameter) : Shape :=
  ⟨parameter.type, parameter.multiplicity, parameter.default?, false⟩

/-- The parameter is the returned value. -/
def isResult (parameter : Parameter) : Bool :=
  parameter.direction == .result

/-- A returned value of the given type. -/
def returning (type : MemberType) : Parameter :=
  { type, direction := .result }

end Parameter

/-- An operation of a classifier. An empty body means that none is given. -/
structure Operation where
  name : String := ""
  documentation : String := ""
  visibility : Visibility := .pub
  isStatic : Bool := false
  isAbstract : Bool := false
  isLeaf : Bool := false
  parameters : List Parameter := []
  body : String := ""
deriving DecidableEq, Repr, Inhabited

namespace Operation

/-- The parameters without the returned value. -/
def arguments (operation : Operation) : List Parameter :=
  operation.parameters.filter fun parameter => !parameter.isResult

/-- The returned value; the first one if several are declared. -/
def result? (operation : Operation) : Option Parameter :=
  operation.parameters.find? Parameter.isResult

end Operation

/-- A literal of an enumeration. -/
structure Literal where
  name : String := ""
  documentation : String := ""
deriving DecidableEq, Repr, Inhabited

end Blueprint
