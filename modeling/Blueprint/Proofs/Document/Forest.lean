/-
Module: Blueprint.Proofs.Document.Forest
Purpose: What stands between the tags of an element, as a tree. A forest is laid out as the events that
  a document shows for it. Events either are such a layout up to the end of the element that is open,
  or are unfinished: every element in them that ends is followed by unfinished events again.
Main exports: Leaf, Forest, Forest.events, Forest.leaves, Unfinished, finished_or_unfinished,
  ModelDocument
-/
import Blueprint.Document.Reading

namespace Blueprint.Document

open Blueprint.Markup (Event Tag Stream)

/-! ### Trees and their events -/

/-- A part of a document that neither opens nor closes an element. -/
inductive Leaf where
  | text (content : String)
  | reference (name : String)
  | cdata (content : String)
  | comment (content : String)
  | instruction (content : String)
  | doctype (content : String)
deriving DecidableEq, Repr

/-- The event that shows a leaf. -/
def Leaf.event : Leaf → Event
  | text content => .text content
  | reference name => .reference name
  | cdata content => .cdata content
  | comment content => .comment content
  | instruction content => .instruction content
  | doctype content => .doctype content

/-- An event opens an element, is an empty element, closes an element, or shows a leaf. -/
theorem event_cases (event : Event) :
    (∃ tag, event = .start tag) ∨ (∃ tag, event = .empty tag) ∨ (∃ name, event = .finish name) ∨
      ∃ piece : Leaf, event = piece.event := by
  cases event with
  | start tag => exact .inl ⟨tag, rfl⟩
  | empty tag => exact .inr (.inl ⟨tag, rfl⟩)
  | finish name => exact .inr (.inr (.inl ⟨name, rfl⟩))
  | text content => exact .inr (.inr (.inr ⟨.text content, rfl⟩))
  | reference name => exact .inr (.inr (.inr ⟨.reference name, rfl⟩))
  | cdata content => exact .inr (.inr (.inr ⟨.cdata content, rfl⟩))
  | comment content => exact .inr (.inr (.inr ⟨.comment content, rfl⟩))
  | instruction content => exact .inr (.inr (.inr ⟨.instruction content, rfl⟩))
  | doctype content => exact .inr (.inr (.inr ⟨.doctype content, rfl⟩))

/-- What an element holds: elements with what they hold in turn, elements written as empty, and leaves,
    in document order. `closing` is the name in the end tag. -/
inductive Forest where
  | nil
  | element (tag : Tag) (inside : Forest) (closing : String) (rest : Forest)
  | empty (tag : Tag) (rest : Forest)
  | leaf (piece : Leaf) (rest : Forest)
deriving DecidableEq, Repr

namespace Forest

/-- The events of a forest in document order. -/
def events : Forest → List Event
  | nil => []
  | element tag inside closing rest =>
    .start tag :: (inside.events ++ .finish closing :: rest.events)
  | empty tag rest => .empty tag :: rest.events
  | leaf piece rest => piece.event :: rest.events

theorem events_element_append (tag : Tag) (inside rest : Forest) (closing : String)
    (after : List Event) :
    (element tag inside closing rest).events ++ after =
      .start tag :: (inside.events ++ .finish closing :: (rest.events ++ after)) := by
  simp [events]

/-- The leaves of a forest at any depth, in document order. -/
def leaves : Forest → List Leaf
  | nil => []
  | element _ inside _ rest => inside.leaves ++ rest.leaves
  | empty _ rest => rest.leaves
  | leaf piece rest => piece :: rest.leaves

end Forest

/-! ### Unfinished events -/

/-- Events in which the element that is open does not end. -/
inductive Unfinished : List Event → Prop where
  | nil : Unfinished []
  | leaf {events : List Event} (piece : Leaf) (later : Unfinished events) :
      Unfinished (piece.event :: events)
  | empty {events : List Event} (tag : Tag) (later : Unfinished events) :
      Unfinished (.empty tag :: events)
  | inner {events : List Event} (tag : Tag) (within : Unfinished events) :
      Unfinished (.start tag :: events)
  | outer {events : List Event} (tag : Tag) (inside : Forest) (closing : String)
      (later : Unfinished events) :
      Unfinished (.start tag :: (inside.events ++ .finish closing :: events))

/-- Events are the layout of a forest up to an end tag, or unfinished. -/
theorem finished_or_unfinished (events : List Event) :
    (∃ (forest : Forest) (closing : String) (after : List Event),
      events = forest.events ++ .finish closing :: after) ∨ Unfinished events := by
  match events with
  | [] => exact .inr .nil
  | event :: events =>
      rcases event_cases event with ⟨tag, rfl⟩ | ⟨tag, rfl⟩ | ⟨name, rfl⟩ | ⟨piece, rfl⟩
      · -- first the element that has just been opened, then what follows it
        rcases finished_or_unfinished events with ⟨inside, closing, after, rfl⟩ | within
        · have shorter : after.length < (inside.events ++ .finish closing :: after).length := by
            simp only [List.length_append, List.length_cons]
            omega
          rcases finished_or_unfinished after with ⟨rest, final, behind, rfl⟩ | later
          · exact .inl ⟨.element tag inside closing rest, final, behind, by simp [Forest.events]⟩
          · exact .inr (.outer tag inside closing later)
        · exact .inr (.inner tag within)
      · rcases finished_or_unfinished events with ⟨rest, closing, after, rfl⟩ | later
        · exact .inl ⟨.empty tag rest, closing, after, by simp [Forest.events]⟩
        · exact .inr (.empty tag later)
      · exact .inl ⟨.nil, name, events, by simp [Forest.events]⟩
      · rcases finished_or_unfinished events with ⟨rest, closing, after, rfl⟩ | later
        · exact .inl ⟨.leaf piece rest, closing, after, by simp [Forest.events]⟩
        · exact .inr (.leaf piece later)
termination_by events.length
decreasing_by all_goals simp_all; try omega

/-! ### Documents -/

/-- No event of the list opens an element of the given name. -/
def NoneOpens (name : String) (events : List Event) : Prop :=
  ∀ event ∈ events, ∀ tag isEmpty, opening? event = some (tag, isEmpty) → tag.name ≠ name

/-- The events of a document in which the first element named `model` has the given tag and holds the
    given forest. What stands before it opens no such element; what stands behind it is not read. -/
inductive ModelDocument : List Event → (isEmpty : Bool) → Tag → Forest → Prop where
  | filled {before after : List Event} {tag : Tag} {inside : Forest} {closing : String}
      (named : tag.name = "model") (first : NoneOpens "model" before) :
      ModelDocument (before ++ .start tag :: (inside.events ++ .finish closing :: after))
        false tag inside
  | hollow {before after : List Event} {tag : Tag}
      (named : tag.name = "model") (first : NoneOpens "model" before) :
      ModelDocument (before ++ .empty tag :: after) true tag .nil

end Blueprint.Document
