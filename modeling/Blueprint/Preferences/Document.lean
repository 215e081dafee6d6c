/-
Module: Blueprint.Preferences.Document
Purpose: Preferences as a document. They are the attributes of its first element, whatever the name of
  that element, and the text of the elements in it whose names mark them as choices; a name counts
  without its namespace. A choice is made once. There is no tolerance here: the first fault ends the
  reading. Everything else in the element is passed over, but has to end.
Main exports: Preferences.ofDocument
-/
import Blueprint.Preferences.Choice

namespace Blueprint

open Markup (Remainder ContentFault Tag)

namespace Preferences

/-- A reading of preferences: the choices read so far, those without a value among them. -/
structure Reading where
  preferences : Preferences := {}
  made : List Choice := []
deriving DecidableEq, Repr

/-- The fault of content as one of preferences. -/
def ofOutcome {α : Type} (outcome : Except ContentFault α) : Except PreferencesFault α :=
  outcome.mapError .content

/-! ### Attributes -/

/-- The choice that an attribute makes. Its name counts without its namespace, but a declaration of a
    namespace and a name of the namespace `xml` itself are no choices. -/
def attributeChoice? (name : String) : Option Choice :=
  match Markup.declaration? name, Markup.splitName name with
  | some _, _ | none, (some "xml", _) => none
  | none, (_, plain) => Choice.ofName? plain

/-- The choice is noted as made, unless it was made before. -/
def Reading.note (reading : Reading) (choice : Choice) : Except PreferencesFault Reading :=
  if choice ∈ reading.made then .error (.repeated choice.name)
  else .ok { reading with made := choice :: reading.made }

/-- The reading with what is written for a choice. -/
def Reading.choose (reading : Reading) (choice : Choice) (written : Written) :
    Except PreferencesFault Reading := do
  return { reading with preferences := ← reading.preferences.choose choice written }

/-- The reading with one attribute. -/
def Reading.takeAttribute (reading : Reading) (written : Markup.Attribute) :
    Except PreferencesFault Reading := do
  match attributeChoice? written.name with
  | none => return reading
  | some choice => (← reading.note choice).choose choice (.inAttribute written.value)

/-- The choices that the attributes of a tag make, up to the first fault. -/
def readTag (tag : Tag) : Except PreferencesFault Reading :=
  (Markup.readAttributes tag).foldlM
    (fun reading outcome =>
      match outcome with
      | .error fault => .error (.faultyAttribute fault)
      | .ok written => reading.takeAttribute written)
    {}

/-! ### Elements -/

/-- The choice that an element makes. Its name, which counts without its namespace, is that of the
    choice after an at sign. -/
def elementChoice? (name : String) : Option Choice :=
  match (Markup.splitName name).2.toList with
  | '@' :: plain => Choice.ofName? (String.ofList plain)
  | _ => none

/-- The reading with a choice whose element begins with `tag` in the element `root`. The choice has no
    value when one of the two elements says that it has none. -/
def Reading.takeElement (reading : Reading) (root tag : Tag) (choice : Choice) (remainder : Remainder) :
    Except PreferencesFault (Reading × remainder.Rest) := do
  let reading ← reading.note choice
  if remainder.inSight.marksNil root || remainder.inSight.marksNil tag then
    return (reading, ← ofOutcome (remainder.skipElement tag.name))
  else
    let (text, rest) ← ofOutcome (remainder.elementText tag.name)
    return (← reading.choose choice (.asText text), rest)

/-- The reading with all that the element `root` holds, up to its end. -/
def Reading.takeContent (root : Tag) (reading : Reading) (remainder : Remainder) :
    Except PreferencesFault Reading := do
  match ← ofOutcome remainder.next? with
  | none => .error (.content (Remainder.missingEnd root.name))
  | some (.closing _, _) => return reading
  | some (.text _, ⟨rest, _⟩) => takeContent root reading rest
  | some (.opening tag, ⟨rest, _⟩) =>
    match elementChoice? tag.name with
    | some choice => do
      let (reading, ⟨after, _⟩) ← reading.takeElement root tag choice rest
      takeContent root reading after
    | none => do
      let ⟨after, _⟩ ← ofOutcome (rest.skipElement tag.name)
      takeContent root reading after
termination_by remainder.parts.length

/-! ### Documents -/

/-- There is no text before the preferences but white space. -/
def expectBlank (run : String) : Except PreferencesFault Unit :=
  if run.toList.all Markup.isSpace then .ok ()
  else .error (.wrongType run "struct Preferences")

/-- The preferences of the first element. -/
def ofRemainder (remainder : Remainder) : Except PreferencesFault Preferences := do
  match ← ofOutcome remainder.next? with
  | none => .error (.content .unexpectedEnd)
  | some (.text run, ⟨rest, _⟩) => do
    expectBlank run
    ofRemainder rest
  | some (.closing _, ⟨rest, _⟩) => ofRemainder rest
  | some (.opening root, ⟨rest, _⟩) => do
    let reading ← readTag root
    return (← reading.takeContent root rest).preferences
termination_by remainder.parts.length

/-- The preferences that a document sets. -/
def ofDocument (document : String) : Except PreferencesFault Preferences :=
  ofRemainder (Remainder.ofStream (Markup.Stream.ofText document))

end Preferences

end Blueprint
