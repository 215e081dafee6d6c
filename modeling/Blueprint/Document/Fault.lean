/-
Module: Blueprint.Document.Fault
Purpose: What can be wrong with a model document, as causes, and the wording of each cause.
Main exports: ReferenceContext, MemberKind, DocumentFault
-/
import Blueprint.Markup.Fault

namespace Blueprint

open Markup (SyntaxFault EscapeFault)

/-- Where a document refers to an element by its key. -/
inductive ReferenceContext where
  | attributeType
  | parameterType
  | stereotype
  | generalization
  | realization
  | dependency
  | associationEnd
deriving DecidableEq, Repr

/-- The place of a reference as messages name it. -/
def ReferenceContext.label : ReferenceContext → String
  | .attributeType => "attribute type"
  | .parameterType => "parameter type"
  | .stereotype => "use case stereotype"
  | .generalization => "generalization"
  | .realization => "realization"
  | .dependency => "dependency"
  | .associationEnd => "association end"

/-- The members that only a classifier can have. -/
inductive MemberKind where
  | attr
  | operation
  | literal
deriving DecidableEq, Repr

/-- The kind of a member as messages name it. -/
def MemberKind.label : MemberKind → String
  | .attr => "attribute"
  | .operation => "operation"
  | .literal => "literal"

/-- What is wrong with a model document. -/
inductive DocumentFault where
  | malformed (fault : SyntaxFault)
  | escape (fault : EscapeFault)
  | missingAttribute (element name : String)
  | invalidAttribute (element name value : String)
  | unknownReference (key : String) (context : ReferenceContext)
  | duplicateKey (key : String)
  | noModel
  | unexpectedEnd
  | strayMember (kind : MemberKind)
  | associationEnds
deriving DecidableEq, Repr

/-- The wording of a fault of a model document. -/
def DocumentFault.message : DocumentFault → String
  | .malformed fault => "XML parsing error: " ++ fault.message
  | .escape fault => "XML escape error: " ++ fault.message
  | .missingAttribute element name =>
    "missing required attribute '" ++ name ++ "' on element '" ++ element ++ "'"
  | .invalidAttribute element name value =>
    "invalid value '" ++ value ++ "' for attribute '" ++ name ++ "' on element '" ++ element ++ "'"
  | .unknownReference key context => "unknown reference '" ++ key ++ "' in " ++ context.label
  | .duplicateKey key => "duplicate element id definition: '" ++ key ++ "'"
  | .noModel => "invalid model structure: No model element found"
  | .unexpectedEnd => "invalid model structure: unexpected end of document"
  | .strayMember kind => "invalid model structure: " ++ kind.label ++ " outside of a classifier"
  | .associationEnds => "invalid model structure: association must have exactly two ends"

end Blueprint
