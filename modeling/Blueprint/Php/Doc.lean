/-
Module: Blueprint.Php.Doc
Purpose: Doc blocks: a text as one comment, a line of it on each line between the two that open and
  close the comment.
Main exports: Rendering, docLines, docBlock
-/
import Blueprint.Php.Options
import Blueprint.Php.Source
import Blueprint.Php.TypeText

namespace Blueprint.Php

/-- A scope together with the choices about the sources. -/
structure Rendering extends Scope where
  options : Options

/-- A line of a doc block for a line of its text. -/
def docLine (line : String) : String :=
  let line := Text.trim line
  if line.isEmpty then " *" else " * " ++ line

/-- The lines of the doc block of a text; a blank text has none. -/
def docLines (text : String) : List String :=
  let text := Text.trim text
  if text.isEmpty then [] else "/**" :: (Text.lines text).map docLine ++ [" */"]

/-- The doc block of a text, if doc blocks are wanted. -/
def Rendering.docBlock (rendering : Rendering) (text : String) : Fragment :=
  if rendering.options.docs then .concat ((docLines text).map Fragment.ofText) else .empty

end Blueprint.Php
