/-
Module: Blueprint.Markup.Namespace
Purpose: The namespaces that the attributes of a tag declare. A declaration binds a name to the address
  of a namespace and holds inside of the element; the innermost declaration of a name counts. Two
  names and their namespaces are reserved. An element can say by an attribute of one particular
  namespace that it has no value.
Main exports: NamespaceFault, Declaration, declaration?, Scope, Scope.enter, Scope.leave, Scope.marksNil
-/
import Blueprint.Markup.Attribute
import Blueprint.Text.Quoted
import Blueprint.Text.Search

namespace Blueprint.Markup

/-- A declaration of a namespace that is not allowed. -/
inductive NamespaceFault where
  | xmlRebound (address : String)
  | xmlnsBound (address : String)
  | reservedAddress (name address : String)
deriving DecidableEq, Repr

/-- The wording of a fault in the declaration of a namespace. -/
def NamespaceFault.message : NamespaceFault → String
  | .xmlRebound address =>
    "the namespace prefix 'xml' cannot be bound to '" ++ Text.quotedBytes address ++ "'"
  | .xmlnsBound address =>
    "the namespace prefix 'xmlns' cannot be bound to '" ++ Text.quotedBytes address ++ "'"
  | .reservedAddress name address =>
    "the namespace prefix '" ++ Text.quotedBytes name ++ "' cannot be bound to '" ++ address ++ "'"

/-- The namespace that the name `xml` stands for. -/
def xmlAddress : String :=
  "http://www.w3.org/XML/1998/namespace"

/-- The namespace of the declarations themselves. -/
def xmlnsAddress : String :=
  "http://www.w3.org/2000/xmlns/"

/-- The namespace of the attributes that say something about an element as a value. -/
def instanceAddress : String :=
  "http://www.w3.org/2001/XMLSchema-instance"

/-- What an attribute declares by its name: the namespace of names without a prefix, or that of a
    prefix. -/
inductive Declaration where
  | default
  | named (name : String)
deriving DecidableEq, Repr

/-- The declaration that an attribute of the given name is, if it is one. -/
def declaration? (name : String) : Option Declaration :=
  match Text.after? "xmlns".toList name.toList with
  | some [] => some .default
  | some (':' :: declared) => some (.named (String.ofList declared))
  | _ => none

/-- The part of a name before its first colon, and the part after it. -/
def splitName (name : String) : Option String × String :=
  match name.toList.span (· != ':') with
  | (before, _ :: after) => (some (String.ofList before), String.ofList after)
  | (_, []) => (none, name)

/-- A name that stands for a namespace, and how many elements were open when it was declared, that of
    the declaration included. -/
structure Binding where
  depth : Nat
  name : String
  address : String
deriving DecidableEq, Repr

/-- The declarations that hold at a place of a document, latest first, and how many elements are open
    there. -/
structure Scope where
  depth : Nat := 0
  bindings : List Binding := []
deriving DecidableEq, Repr, Inhabited

namespace Scope

/-- The scope with what one attribute declares. The namespace of names without a prefix plays no part in
    reading attributes and is left out. -/
def declare (scope : Scope) (written : Attribute) : Except NamespaceFault Scope :=
  match declaration? written.name with
  | none | some .default => .ok scope
  | some (.named name) =>
    let address := written.value
    if name = "xml" then if address = xmlAddress then .ok scope else .error (.xmlRebound address)
    else if name = "xmlns" then .error (.xmlnsBound address)
    else if address = xmlAddress ∨ address = xmlnsAddress then .error (.reservedAddress name address)
    else .ok { scope with bindings := ⟨scope.depth, name, address⟩ :: scope.bindings }

/-- The scope inside of an element. -/
def enter (scope : Scope) (tag : Tag) : Except NamespaceFault Scope :=
  (leadingAttributes tag).foldlM declare { scope with depth := scope.depth + 1 }

/-- The scope after the end of an element. -/
def leave (scope : Scope) : Scope :=
  let depth := scope.depth - 1
  ⟨depth, scope.bindings.dropWhile fun binding => decide (depth < binding.depth)⟩

/-- The namespace that a name before a colon stands for. Nothing stands for one if there is no name. -/
def address? (scope : Scope) (name : String) : Option String :=
  if name.isEmpty then none
  else (scope.bindings.find? (·.name == name)).map (·.address)

/-- The tag says that its element has no value. -/
def marksNil (scope : Scope) (tag : Tag) : Bool :=
  (soundAttributes tag).any fun written =>
    match splitName written.name with
    | (some name, "nil") =>
      scope.address? name == some instanceAddress && (written.value == "true" || written.value == "1")
    | _ => false

end Scope

end Blueprint.Markup
