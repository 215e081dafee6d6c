/-
Module: Blueprint.Markup.Remainder
Purpose: Reading a document as nested elements with text in them. Comments and instructions are left
  out, an empty element is an element with nothing in it, and text comes in runs as long as can be:
  character data and references are part of the text around them. A reader looks one part ahead, so
  that an element that is passed over is looked at only where it begins.
Main exports: ContentFault, Part, Remainder, Item, Remainder.next?, Remainder.inSight,
  Remainder.skipElement, Remainder.elementText
-/
import Blueprint.Markup.Escape
import Blueprint.Markup.Namespace
import Blueprint.Markup.Scan
import Blueprint.Text.Lines

namespace Blueprint.Markup

/-- What ends the reading of content. -/
inductive ContentFault where
  | malformed (fault : SyntaxFault)
  | declaration (fault : NamespaceFault)
  | escape (fault : EscapeFault)
  | unexpectedTag (name : String)
  | unexpectedEnd
deriving DecidableEq, Repr

/-- The wording of a fault in content. -/
def ContentFault.message : ContentFault → String
  | malformed fault => fault.message
  | declaration fault => fault.message
  | escape fault => fault.message
  | unexpectedTag name => "unexpected `Event::Start(" ++ Text.quotedBytes name ++ ")`"
  | unexpectedEnd => "unexpected `Event::Eof`"

/-- A part of a document that says something about its elements or their text. -/
inductive Part where
  | opening (tag : Tag)
  | closing (name : String)
  | text (content : String)
  | reference (name : String)
  | doctype
deriving DecidableEq, Repr

/-- The parts that an event stands for. -/
def Event.parts : Event → List Part
  | .start tag => [.opening tag]
  | .empty tag => [.opening tag, .closing tag.name]
  | .finish name => [.closing name]
  | .text content | .cdata content => [.text (String.ofList (Text.unifyLineEnds content.toList))]
  | .reference name => [.reference name]
  | .doctype _ => [.doctype]
  | .comment _ | .instruction _ => []

/-- What is left to read of a document, and the namespaces that hold there. -/
structure Remainder where
  scope : Scope
  parts : List Part
  ending : Ending
deriving Repr

/-- What reading comes upon. -/
inductive Item where
  | opening (tag : Tag)
  | closing (name : String)
  | text (content : String)
deriving DecidableEq, Repr

/-- A document of which nothing has been read. -/
def Remainder.ofStream (stream : Stream) : Remainder :=
  ⟨{}, stream.events.flatMap Event.parts, stream.ending⟩

namespace Remainder

/-- What is left when no more is left to read than of `remainder`. -/
abbrev Rest (remainder : Remainder) := { rest : Remainder // rest.parts.length ≤ remainder.parts.length }

/-- What is left when something of `remainder` has been read. -/
abbrev Less (remainder : Remainder) := { rest : Remainder // rest.parts.length < remainder.parts.length }

/-! ### One item -/

/-- The character of a reference between tags. -/
def resolve (name : String) : Except ContentFault Char :=
  (resolveReference 0 name.toList).mapError .escape

/-- A run of text, given what has been read of it, and the parts after it. -/
def gatherText (run : String) :
    (parts : List Part) → Except ContentFault (String × { rest : List Part // rest.length ≤ parts.length })
  | .text content :: parts => do
    let (run, ⟨rest, shorter⟩) ← gatherText (run ++ content) parts
    return (run, ⟨rest, Nat.le_succ_of_le shorter⟩)
  | .reference name :: parts => do
    let character ← resolve name
    let (run, ⟨rest, shorter⟩) ← gatherText (run.push character) parts
    return (run, ⟨rest, Nat.le_succ_of_le shorter⟩)
  | parts => .ok (run, ⟨parts, Nat.le_refl _⟩)

/-- The next item, if there is one, with the namespaces and the parts after it. A declaration of the
    document type is passed over, and divides the text around it. -/
def itemFrom (scope : Scope) (ending : Ending) :
    (parts : List Part) →
      Except ContentFault (Option (Item × Scope × { rest : List Part // rest.length < parts.length }))
  | [] =>
    match ending with
    | .complete => .ok none
    | .broken fault => .error (.malformed fault)
  | .opening tag :: rest =>
    match scope.enter tag with
    | .ok inner => .ok (some (.opening tag, inner, ⟨rest, Nat.lt_succ_self _⟩))
    | .error fault => .error (.declaration fault)
  | .closing name :: rest => .ok (some (.closing name, scope.leave, ⟨rest, Nat.lt_succ_self _⟩))
  | .text content :: rest => do
    let (run, ⟨after, shorter⟩) ← gatherText content rest
    return some (.text run, scope, ⟨after, Nat.lt_succ_of_le shorter⟩)
  | .reference name :: rest => do
    let character ← resolve name
    let (run, ⟨after, shorter⟩) ← gatherText character.toString rest
    return some (.text run, scope, ⟨after, Nat.lt_succ_of_le shorter⟩)
  | .doctype :: rest => do
    match ← itemFrom scope ending rest with
    | none => return none
    | some (item, scope, ⟨after, shorter⟩) => return some (item, scope, ⟨after, Nat.lt_succ_of_lt shorter⟩)

/-- The next item and what is left after it; nothing at the end of the document. -/
def next? (remainder : Remainder) : Except ContentFault (Option (Item × Less remainder)) := do
  match ← itemFrom remainder.scope remainder.ending remainder.parts with
  | none => return none
  | some (item, scope, ⟨parts, shorter⟩) => return some (item, ⟨⟨scope, parts, remainder.ending⟩, shorter⟩)

/-- The namespaces known to a reader that looks one part ahead: to those that hold come the ones of a
    tag that is next. -/
def inSight (remainder : Remainder) : Scope :=
  match remainder.parts with
  | .opening tag :: _ =>
    match remainder.scope.enter tag with
    | .ok inner => inner
    | .error _ => remainder.scope
  | _ => remainder.scope

/-! ### Passing over elements -/

/-- The end of an element is missing. -/
def missingEnd (name : String) : ContentFault :=
  .malformed (.missingClose name)

/-- The parts after the end of an element, given the number of elements of the same name that are open
    inside of it. -/
def afterEnd (ending : Ending) (name : String) :
    (depth : Nat) → (parts : List Part) →
      Except ContentFault { rest : List Part // rest.length ≤ parts.length }
  | _, [] =>
    match ending with
    | .complete => .error (missingEnd name)
    | .broken fault => .error (.malformed fault)
  | depth, .opening tag :: parts => do
    let ⟨rest, shorter⟩ ← afterEnd ending name (if tag.name = name then depth + 1 else depth) parts
    return ⟨rest, Nat.le_succ_of_le shorter⟩
  | depth, .closing closed :: parts =>
    if closed = name ∧ depth = 0 then .ok ⟨parts, Nat.le_succ _⟩
    else do
      let ⟨rest, shorter⟩ ← afterEnd ending name (if closed = name then depth - 1 else depth) parts
      return ⟨rest, Nat.le_succ_of_le shorter⟩
  | depth, _ :: parts => do
    let ⟨rest, shorter⟩ ← afterEnd ending name depth parts
    return ⟨rest, Nat.le_succ_of_le shorter⟩

/-- Pass over what is left of an element. Of the tags that are passed over only one that comes first, and
    so is in sight, can be found to have a faulty declaration. When its name is another one, the
    namespaces that the element itself declares go on to hold. -/
def leaveElement (name : String) (remainder : Remainder) : Except ContentFault (Rest remainder) := do
  let scope ←
    match remainder.parts with
    | .opening tag :: _ =>
      match remainder.scope.enter tag with
      | .error fault => .error (.declaration fault)
      | .ok _ => .ok (if tag.name = name then remainder.scope.leave else remainder.scope)
    | _ => .ok remainder.scope.leave
  let ⟨parts, shorter⟩ ← afterEnd remainder.ending name 0 remainder.parts
  return ⟨⟨scope, parts, remainder.ending⟩, shorter⟩

/-- Pass over an element whose tag has just been read. What it begins with, be it text or an element, is
    read, and the rest is left unread. -/
def skipElement (name : String) (remainder : Remainder) : Except ContentFault (Rest remainder) := do
  match ← remainder.next? with
  | none => .error (missingEnd name)
  | some (.closing _, ⟨rest, shorter⟩) => return ⟨rest, Nat.le_of_lt shorter⟩
  | some (.text _, ⟨rest, shorter⟩) => do
    let ⟨after, within⟩ ← rest.leaveElement name
    return ⟨after, Nat.le_trans within (Nat.le_of_lt shorter)⟩
  | some (.opening tag, ⟨rest, shorter⟩) => do
    let ⟨inner, nested⟩ ← rest.leaveElement tag.name
    let ⟨after, within⟩ ← inner.leaveElement name
    return ⟨after, Nat.le_trans within (Nat.le_trans nested (Nat.le_of_lt shorter))⟩

/-! ### Elements that hold text -/

/-- The text of an element whose tag has just been read. It is one run of text, and there is nothing
    else in the element. -/
def elementText (name : String) (remainder : Remainder) :
    Except ContentFault (String × Rest remainder) := do
  match ← remainder.next? with
  | none => .error (missingEnd name)
  | some (.closing _, ⟨rest, shorter⟩) => return ("", ⟨rest, Nat.le_of_lt shorter⟩)
  | some (.opening tag, _) => .error (.unexpectedTag tag.name)
  | some (.text text, ⟨rest, shorter⟩) =>
    match ← rest.next? with
    | some (.closing _, ⟨after, within⟩) =>
      return (text, ⟨after, Nat.le_trans (Nat.le_of_lt within) (Nat.le_of_lt shorter)⟩)
    | some (.opening tag, _) => .error (.unexpectedTag tag.name)
    | some (.text _, _) | none => .error (missingEnd name)

end Remainder

end Blueprint.Markup
