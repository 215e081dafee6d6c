/-
Module: Blueprint.Markup.Fault
Purpose: What can be wrong with a marked up document, as causes, and the wording of each cause. A
  syntax fault ends the reading of a document. An attribute fault concerns one attribute of a tag
  and leaves the others readable. An escape fault concerns a reference to a character.
Main exports: Construct, SyntaxFault, AttributeFault, CharacterFault, EscapeFault
-/

namespace Blueprint.Markup

/-- A construct of the markup that has an end of its own to be found. -/
inductive Construct where
  | instruction
  | declaration
  | comment
  | doctype
  | cdata
  | tag
  | value (quote : Char)
deriving DecidableEq, Repr

/-- The construct as a message names it. -/
def Construct.label : Construct → String
  | .instruction => "processing instruction"
  | .declaration => "XML declaration"
  | .comment => "comment"
  | .doctype => "DOCTYPE"
  | .cdata => "CDATA"
  | .tag => "tag"
  | .value _ => "attribute value"

/-- The characters that end the construct. -/
def Construct.closing : Construct → String
  | .instruction | .declaration => "?>"
  | .comment => "-->"
  | .doctype | .tag => ">"
  | .cdata => "]]>"
  | .value quote => quote.toString

/-- A fault that ends the reading of a document. -/
inductive SyntaxFault where
  | unknownMarkup
  | unclosed (construct : Construct)
  | doctypeWithoutName
  | unmatchedClose (name : String)
  | mismatchedClose (expected found : String)
  | unclosedReference
  | missingClose (name : String)
deriving DecidableEq, Repr

/-- The wording of a syntax fault. -/
def SyntaxFault.message : SyntaxFault → String
  | .unknownMarkup => "syntax error: unknown or missed symbol in markup"
  | .unclosed construct =>
    "syntax error: " ++ construct.label ++ " not closed: `" ++ construct.closing ++
      "` not found before end of input"
  | .doctypeWithoutName =>
    "ill-formed document: `<!DOCTYPE>` declaration does not contain a name of a document type"
  | .unmatchedClose name =>
    "ill-formed document: close tag `</" ++ name ++ ">` does not match any open tag"
  | .mismatchedClose expected found =>
    "ill-formed document: expected `</" ++ expected ++ ">`, but `</" ++ found ++ ">` was found"
  | .unclosedReference =>
    "ill-formed document: entity or character reference not closed: `;` not found before end of input"
  | .missingClose name =>
    "ill-formed document: start tag not closed: `</" ++ name ++ ">` not found before end of input"

/-- A fault in the attributes of a tag, with its byte offset in the content of the tag. -/
inductive AttributeFault where
  | missingEquals (offset : Nat)
  | missingValue (offset : Nat)
  | unquotedValue (offset : Nat)
  | missingQuote (offset : Nat) (quote : Char)
  | duplicate (offset earlier : Nat)
deriving DecidableEq, Repr

/-- The byte offset at which an attribute fault was noticed. -/
def AttributeFault.offset : AttributeFault → Nat
  | .missingEquals offset | .missingValue offset | .unquotedValue offset
  | .missingQuote offset _ | .duplicate offset _ => offset

/-- What an attribute fault finds wrong. -/
def AttributeFault.complaint : AttributeFault → String
  | .missingEquals _ => "attribute key must be directly followed by `=` or space"
  | .missingValue _ => "`=` must be followed by an attribute value"
  | .unquotedValue _ => "attribute value must be enclosed in `\"` or `'`"
  | .missingQuote _ quote => "missing closing quote `" ++ quote.toString ++ "` in attribute value"
  | .duplicate _ earlier => "duplicated attribute, previous declaration at position " ++ toString earlier

/-- The wording of an attribute fault. -/
def AttributeFault.message (fault : AttributeFault) : String :=
  "position " ++ toString fault.offset ++ ": " ++ fault.complaint

/-- What is wrong with the number of a character reference. -/
inductive CharacterFault where
  | sign
  | empty
  | digit
  | tooLarge
  | notCharacter (code : Nat)
  | nul
deriving DecidableEq, Repr

/-- The wording of a fault in the number of a character reference. -/
def CharacterFault.message : CharacterFault → String
  | .sign => "unexpected number sign"
  | .empty => "cannot parse integer from empty string"
  | .digit => "invalid digit found in string"
  | .tooLarge => "number too large to fit in target type"
  | .notCharacter code => "`" ++ toString code ++ "` is not a valid codepoint"
  | .nul => "0x0 character is not permitted in XML"

/-- A fault in a reference to a character, with byte offsets in the text that holds it. -/
inductive EscapeFault where
  | unterminated (first last : Nat)
  | unknownEntity (first last : Nat) (name : String)
  | character (fault : CharacterFault)
deriving DecidableEq, Repr

/-- The wording of an escape fault. -/
def EscapeFault.message : EscapeFault → String
  | .unterminated first last =>
    "Error while escaping character at range " ++ toString first ++ ".." ++ toString last ++
      ": Cannot find ';' after '&'"
  | .unknownEntity first last name =>
    "at " ++ toString first ++ ".." ++ toString last ++ ": unrecognized entity `" ++ name ++ "`"
  | .character fault => "invalid character reference: " ++ fault.message

end Blueprint.Markup
