/-
Module: Blueprint.Markup.Event
Purpose: A marked up document as the sequence of its parts. Each part is an event, and the sequence
  ends either with the document or with the first syntax fault, whatever comes after it. Reading
  such a stream from the left therefore meets a fault only when everything before it has been read.
Main exports: Tag, Event, Ending, Stream
-/
import Blueprint.Markup.Fault

namespace Blueprint.Markup

/-- The white space of markup: tab, line feed, carriage return and space. -/
def isSpace (c : Char) : Bool :=
  c == '\t' || c == '\n' || c == '\r' || c == ' '

/-- A start tag or an empty element: its name and the text of its attributes, unread. -/
structure Tag where
  name : String
  attributes : String
deriving DecidableEq, Repr

/-- The tag with the given content, whose name goes up to the first white space. -/
def Tag.ofContent (content : List Char) : Tag :=
  let isNamePart := fun c => !isSpace c
  ⟨String.ofList (content.takeWhile isNamePart), String.ofList (content.dropWhile isNamePart)⟩

/-- A part of a document. A reference stands for a character and is kept by name; the text of a
    section of character data is taken as it stands. -/
inductive Event where
  | start (tag : Tag)
  | empty (tag : Tag)
  | finish (name : String)
  | text (content : String)
  | reference (name : String)
  | cdata (content : String)
  | comment (content : String)
  | instruction (content : String)
  | doctype (content : String)
deriving DecidableEq, Repr

/-- How a document ends: after its last part, or at a fault. -/
inductive Ending where
  | complete
  | broken (fault : SyntaxFault)
deriving DecidableEq, Repr

/-- The parts of a document up to its end or its first fault. -/
structure Stream where
  events : List Event
  ending : Ending
deriving DecidableEq, Repr

/-- The stream with one more event before it. -/
def Stream.cons (event : Event) (stream : Stream) : Stream :=
  ⟨event :: stream.events, stream.ending⟩

@[simp]
theorem Stream.events_cons (event : Event) (stream : Stream) :
    (stream.cons event).events = event :: stream.events := rfl

end Blueprint.Markup
