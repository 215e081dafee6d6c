/-
Module: Blueprint.Php.Options
Purpose: What can be chosen about the sources that are written.
Main exports: IndentStyle, EnumStyle, Options
-/

namespace Blueprint.Php

/-- How nested lines are indented. -/
inductive IndentStyle where
  | tab
  | spaces (count : Nat)
deriving DecidableEq, Repr, Inhabited

/-- The text of one level of indentation. -/
def IndentStyle.unit : IndentStyle → String
  | tab => "\t"
  | spaces count => String.ofList (List.replicate count ' ')

/-- How enumerations are declared: as such, or as a class of numbered constants. -/
inductive EnumStyle where
  | native
  | splEnum
deriving DecidableEq, Repr, Inhabited

/-- The choices for a run of the generator. Suffixes go into the file names of classes and interfaces;
    strict types are parameter hints, return types are declarations of the returned value. -/
structure Options where
  indent : IndentStyle := .spaces 4
  classSuffix : String := ""
  interfaceSuffix : String := ""
  docs : Bool := true
  strictTypes : Bool := false
  returnTypes : Bool := false
  enumStyle : EnumStyle := .splEnum
deriving DecidableEq, Repr, Inhabited

end Blueprint.Php
