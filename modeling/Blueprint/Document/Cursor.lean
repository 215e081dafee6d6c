/-
Module: Blueprint.Document.Cursor
Purpose: A place in the events of a document. What has been read lies behind it; what is to come, and
  how the document ends, lies before it. A cursor either trims texts, as it does between elements,
  or hands them out as they stand, as it must inside a block of text. Readers return a later cursor
  of the same document, so that a reader that goes on from there is seen to end.
Main exports: Cursor, Cursor.Later, Cursor.next?, Cursor.stop, Cursor.ofStream
-/
import Blueprint.Document.Fault
import Blueprint.Markup.Event

namespace Blueprint.Document

open Blueprint.Markup (Event Ending Stream)

/-- A place in the events of a document. -/
structure Cursor where
  events : List Event
  ending : Ending
  trimming : Bool
deriving DecidableEq, Repr

namespace Cursor

/-- The beginning of a document; texts are trimmed. -/
def ofStream (stream : Stream) : Cursor :=
  ⟨stream.events, stream.ending, true⟩

/-- A cursor with no more events before it than `cursor` has. -/
abbrev Later (cursor : Cursor) := { later : Cursor // later.events.length ≤ cursor.events.length }

/-- The cursor itself is not after itself. -/
def here (cursor : Cursor) : cursor.Later :=
  ⟨cursor, Nat.le_refl _⟩

/-- The text without white space at either end. -/
def trimText (text : String) : String :=
  String.ofList ((text.toList.dropWhile Markup.isSpace).reverse.dropWhile Markup.isSpace).reverse

/-- An event as the cursor hands it out. -/
def view (cursor : Cursor) : Event → Event
  | .text content => .text (if cursor.trimming then trimText content else content)
  | event => event

/-- The next event and the cursor behind it, or nothing at the end of the document. -/
def next? (cursor : Cursor) :
    Option (Event × { later : Cursor // later.events.length < cursor.events.length }) :=
  match before : cursor.events with
  | [] => none
  | event :: events =>
    some (cursor.view event, ⟨{ cursor with events }, by simp⟩)

/-- The cursor with texts trimmed or not. -/
def setTrimming (cursor : Cursor) (trimming : Bool) : Cursor :=
  { cursor with trimming }

/-- What a reader that runs out of events returns: the given outcome if the document is complete, or
    the fault that broke it. -/
def stop {α : Type} (cursor : Cursor) (outcome : Except DocumentFault α) : Except DocumentFault α :=
  match cursor.ending with
  | .complete => outcome
  | .broken fault => .error (.malformed fault)

end Cursor

end Blueprint.Document
