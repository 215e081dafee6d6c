/-
Module: Blueprint.Php.Method
Purpose: Methods: the doc block, the signature and the body of an operation. A hint for a type of another
  namespace is shortened to its last part, and the type is imported. An operation without a body gets
  a placeholder and a statement that returns a value of the right kind.
Main exports: parameterName, SignatureStyle, Rendering.method, Rendering.operationMethod
-/
import Blueprint.Php.Doc
import Blueprint.Php.Factory

namespace Blueprint.Php

/-! ### Parameters -/

/-- The name of a parameter. An ampersand anywhere in it passes the value by reference, which doc
    blocks do not show. -/
def parameterName (style : TypeStyle) (name : String) : String :=
  let name := (Text.trim name).toList
  let bare := "$" ++ String.ofList (name.filter (· != '&'))
  if name.contains '&' && style == .code then "&" ++ bare else bare

/-- The number of separators in a type. -/
def separatorCount (type : String) : Nat :=
  type.toList.count separatorChar

/-- The part of a type after its last separator. -/
def lastPart (type : String) : String :=
  String.ofList (type.toList.reverse.takeWhile (· != separatorChar)).reverse

/-- The hint for a type, and what it needs imported. -/
structure Hint where
  text : String
  imports : List String
deriving DecidableEq, Repr

/-- The hint for a type. A type with several separators is imported and written by its last part;
    the namespace of the unit itself is not imported. -/
def hintFor (namespaceName type : String) : Hint :=
  if separatorCount type > 1 then
    ⟨lastPart type, if type = separator ++ namespaceName then [] else [type]⟩
  else ⟨type, []⟩

/-- The hint for a parameter, if its type allows one. A choice of types allows none. -/
def Rendering.hint? (rendering : Rendering) (parameter : Parameter) : Option Hint :=
  if !rendering.options.strictTypes then none
  else
    let type := rendering.typeText parameter.shape .code false
    if type.toList.contains '|' || !isHintable type then none
    else some (hintFor rendering.namespaceName type)

/-- A parameter of a signature. -/
def Rendering.parameter (rendering : Rendering) (parameter : Parameter) : String :=
  let hint :=
    match rendering.hint? parameter with
    | some hint => hint.text ++ " "
    | none => ""
  let value :=
    match parameter.default?.filter (!·.isEmpty) with
    | some value => " = " ++ value
    | none => ""
  hint ++ parameterName .code parameter.name ++ value

/-- What a parameter of a signature needs imported. -/
def Rendering.parameterImports (rendering : Rendering) (parameter : Parameter) : List String :=
  ((rendering.hint? parameter).map Hint.imports).getD []

/-! ### Signatures -/

/-- How much of a method is written: with or without a body and parameters. -/
structure SignatureStyle where
  withBody : Bool := true
  withParameters : Bool := true
deriving DecidableEq, Repr

/-- The doc text of an operation: what is said about it, its parameters and its returned value. -/
def Rendering.methodDoc (rendering : Rendering) (operation : Operation) : String :=
  let typeOf := fun (parameter : Parameter) =>
    rendering.typeText parameter.shape .documentation true
  let arguments := operation.arguments.map fun parameter =>
    "\n@param " ++ typeOf parameter ++ " " ++ parameterName .documentation parameter.name ++ " " ++
      parameter.documentation
  let result := operation.result?.toList.map fun parameter =>
    "\n@return " ++ typeOf parameter ++ " " ++ parameter.documentation
  Text.trim operation.documentation ++ String.join arguments ++ String.join result

/-- The type of the returned value in code, if there is one. -/
def Rendering.resultType? (rendering : Rendering) (operation : Operation) : Option String :=
  operation.result?.map fun parameter => rendering.typeText parameter.shape .code false

/-- The declared type of what a method of `owner` returns. -/
def declaredResult (owner : String) : Option String → String
  | none => "void"
  | some type => if type = "$this" then owner else if type = "create" then "static" else type

/-- The declaration of the returned value, if such declarations are wanted. A constructor has none. -/
def Rendering.resultDeclaration (rendering : Rendering) (owner : String) (operation : Operation) :
    String :=
  if rendering.options.returnTypes && operation.name != "__construct" then
    ": " ++ declaredResult owner (rendering.resultType? operation)
  else ""

/-- The words before the name of a method. -/
def methodWords (operation : Operation) : List String :=
  operation.visibility.keyword?.toList ++ (if operation.isStatic then ["static"] else []) ++
    (if operation.isAbstract then ["abstract"] else []) ++
    (if operation.isLeaf then ["final"] else []) ++ ["function"]

/-- The signature of a method. -/
def Rendering.signature (rendering : Rendering) (owner : String) (operation : Operation)
    (style : SignatureStyle) : String :=
  let arguments := if style.withParameters then operation.arguments else []
  " ".intercalate (methodWords operation ++
    [operation.name ++ "(" ++ ", ".intercalate (arguments.map rendering.parameter) ++ ")" ++
      rendering.resultDeclaration owner operation])

/-- What the signature of a method needs imported. -/
def Rendering.signatureImports (rendering : Rendering) (operation : Operation)
    (style : SignatureStyle) : List String :=
  if style.withParameters then operation.arguments.flatMap rendering.parameterImports else []

/-! ### Bodies -/

/-- The lines of a given body. -/
def givenBody (operation : Operation) : Fragment :=
  let text := Text.trim operation.body
  if text.isEmpty then .empty else .ofText text

/-- What stands between the braces of a method, given the lines that its operation specifies. -/
def Rendering.methodBody (rendering : Rendering) (operation : Operation) (specified : Fragment) :
    Fragment :=
  let type? := rendering.resultType? operation
  let returnsItself := type? == some "$this"
  if specified.lines.isEmpty then
    let statement := if returnsItself && operation.isStatic then none else type?.bind defaultReturn?
    .concat (.ofText placeholder :: statement.toList.map Fragment.ofText)
  else if returnsItself && !operation.isStatic then
    specified ++ .blank ++ .ofText "return $this;"
  else specified

/-! ### Methods -/

/-- The method of an operation of `owner`, given the lines that are specified for its body; an
    operation without a name is left out. -/
def Rendering.method (rendering : Rendering) (owner : String) (operation : Operation)
    (specified : Fragment) (style : SignatureStyle) : Fragment :=
  if operation.name.isEmpty then .empty
  else
    let signature := rendering.signature owner operation style
    rendering.docBlock (rendering.methodDoc operation) ++
      .importing (rendering.signatureImports operation style) ++
      if !style.withBody || operation.isAbstract then .ofText (signature ++ ";")
      else .block signature (rendering.methodBody operation specified)

/-- The method of an operation with its own body. -/
def Rendering.operationMethod (rendering : Rendering) (owner : String) (operation : Operation)
    (style : SignatureStyle) : Fragment :=
  rendering.method owner operation (givenBody operation) style

/-- The method of a factory. -/
def Rendering.factoryMethod (rendering : Rendering) (owner : String) (operation : Operation) :
    Fragment :=
  rendering.method owner operation (chainFragment operation) {}

end Blueprint.Php
