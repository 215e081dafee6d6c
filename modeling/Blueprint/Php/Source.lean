/-
Module: Blueprint.Php.Source
Purpose: Source text as lines at nesting levels. A fragment knows how deep each of its lines is nested
  and what it needs imported, but neither the text of an indentation nor the place where it will
  stand: both are settled when it is put into a source unit.
Main exports: SourceLine, Fragment, Fragment.ofText, Fragment.blank, Fragment.deeper,
  Fragment.withoutFinalBlank, Fragment.importing
-/
import Blueprint.Text.Blank
import Blueprint.Text.Lines

namespace Blueprint.Php

/-- The text repeated. -/
def repeated (count : Nat) (text : String) : String :=
  String.join (List.replicate count text)

/-- A line of source at a nesting level. A line without text is blank at every level. -/
structure SourceLine where
  level : Nat
  text : String
deriving DecidableEq, Repr, Inhabited

namespace SourceLine

/-- The line with its indentation, `depth` levels further in. A blank line has no indentation. -/
def render (unit : String) (depth : Nat) (line : SourceLine) : String :=
  if line.text.isEmpty then "" else repeated (depth + line.level) unit ++ line.text

/-- The line one level further in. -/
def deeper (line : SourceLine) : SourceLine :=
  { line with level := line.level + 1 }

end SourceLine

/-- A piece of source text, with the paths that it needs imported. -/
structure Fragment where
  imports : List String := []
  lines : List SourceLine := []
deriving DecidableEq, Repr, Inhabited

namespace Fragment

/-- Nothing. -/
def empty : Fragment :=
  {}

/-- One fragment after the other. -/
def append (first second : Fragment) : Fragment :=
  ⟨first.imports ++ second.imports, first.lines ++ second.lines⟩

instance : Append Fragment := ⟨append⟩

/-- All fragments one after the other. -/
def concat (fragments : List Fragment) : Fragment :=
  fragments.foldr append empty

/-- The lines of a text at the outermost level, each without blanks at its end. -/
def ofText (text : String) : Fragment :=
  { lines := (Text.pieces text).map fun piece => ⟨0, Text.trimEnd piece⟩ }

/-- A blank line. -/
def blank : Fragment :=
  { lines := [⟨0, ""⟩] }

/-- The fragment one level further in. -/
def deeper (fragment : Fragment) : Fragment :=
  { fragment with lines := fragment.lines.map SourceLine.deeper }

/-- The fragment without its last line, if that line is blank. -/
def withoutFinalBlank (fragment : Fragment) : Fragment :=
  match fragment.lines.getLast? with
  | some line => if line.text.isEmpty then { fragment with lines := fragment.lines.dropLast } else fragment
  | none => fragment

/-- No lines, but paths to import. -/
def importing (paths : List String) : Fragment :=
  { imports := paths }

/-- A block in braces below its header. -/
def block (header : String) (content : Fragment) : Fragment :=
  ofText header ++ ofText "\x7b" ++ content.deeper ++ ofText "\x7d"

@[simp]
theorem imports_append (first second : Fragment) :
    (first ++ second).imports = first.imports ++ second.imports := rfl

@[simp]
theorem lines_append (first second : Fragment) :
    (first ++ second).lines = first.lines ++ second.lines := rfl

end Fragment

end Blueprint.Php
