/-
Module: Blueprint.Php.Unit
Purpose: A source unit in the making: its namespace, the imports it has gathered, and the lines of its
  body written so far. The header of imports may grow while the body is written; both are put
  together when the unit is finished.
Main exports: SourceUnit, SourceUnit.write, SourceUnit.addImport, SourceUnit.emit, SourceUnit.finish
-/
import Blueprint.Php.Source

namespace Blueprint.Php

/-- A source unit in the making. An empty namespace is the global one. -/
structure SourceUnit where
  namespaceName : String
  indentUnit : String
  imports : List String
  lines : Array String
  depth : Nat
deriving DecidableEq, Repr

namespace SourceUnit

/-- A unit that holds nothing yet. -/
def start (indentUnit namespaceName : String) : SourceUnit :=
  ⟨namespaceName, indentUnit, [], #[], 0⟩

/-! ### The body -/

/-- One level further in. -/
def indent (unit : SourceUnit) : SourceUnit :=
  { unit with depth := unit.depth + 1 }

/-- One level further out, if there is one. -/
def outdent (unit : SourceUnit) : SourceUnit :=
  { unit with depth := unit.depth - 1 }

/-- One more line of the body, at its level below the current depth. -/
def push (unit : SourceUnit) (line : SourceLine) : SourceUnit :=
  { unit with lines := unit.lines.push (line.render unit.indentUnit unit.depth) }

/-- The lines of a text at the current depth. -/
def write (unit : SourceUnit) (text : String) : SourceUnit :=
  (Fragment.ofText text).lines.foldl push unit

/-- A blank line. -/
def blank (unit : SourceUnit) : SourceUnit :=
  { unit with lines := unit.lines.push "" }

/-- The last line is taken back if it is blank. -/
def popBlank (unit : SourceUnit) : SourceUnit :=
  if unit.lines.back? = some "" then { unit with lines := unit.lines.pop } else unit

/-! ### Imports -/

/-- One more import. Separators at the beginning of the path are dropped; an empty path and a path
    that is imported already add nothing. -/
def addImport (unit : SourceUnit) (path : String) : SourceUnit :=
  let path := String.ofList (path.toList.dropWhile (· == '\\'))
  if path.isEmpty || unit.imports.contains path then unit
  else { unit with imports := unit.imports ++ [path] }

/-! ### Fragments and files -/

/-- The imports and the lines of a fragment, at the current depth. -/
def emit (unit : SourceUnit) (fragment : Fragment) : SourceUnit :=
  fragment.lines.foldl push (fragment.imports.foldl addImport unit)

/-- The lines of the body without the blank ones at its end. -/
def bodyLines (unit : SourceUnit) : List String :=
  (unit.lines.toList.reverse.dropWhile String.isEmpty).reverse

/-- The namespace and the imports, each part followed by a blank line when there is any of it. -/
def header (unit : SourceUnit) : String :=
  let namespacePart :=
    if unit.namespaceName.isEmpty then "" else "namespace " ++ unit.namespaceName ++ ";\n\n"
  let importPart :=
    if unit.imports.isEmpty then ""
    else String.join (unit.imports.map fun path => "use " ++ path ++ ";\n") ++ "\n"
  namespacePart ++ importPart

/-- The text of the body, with every line that was written. -/
def body (unit : SourceUnit) : String :=
  Text.joinLines unit.lines.toList

/-- The text of the file. -/
def finish (unit : SourceUnit) : String :=
  "<?php\n\n" ++ unit.header ++ Text.joinLines unit.bodyLines ++ "\n"

end SourceUnit

end Blueprint.Php
