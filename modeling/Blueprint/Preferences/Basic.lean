/-
Module: Blueprint.Preferences.Basic
Purpose: Preferences: choices about the sources of which any may be left open. Preferences are laid over
  each other, and what is still open in the end is decided by the defaults of the generator.
Main exports: Preferences, Preferences.merge, Preferences.options
-/
import Blueprint.Php.Options

namespace Blueprint

open Php (EnumStyle IndentStyle Options)

/-- Choices of which any may be left open. -/
structure Preferences where
  useTab? : Option Bool := none
  indentSpaces? : Option Nat := none
  classSuffix? : Option String := none
  interfaceSuffix? : Option String := none
  docs? : Option Bool := none
  strictTypes? : Option Bool := none
  returnTypes? : Option Bool := none
  enumStyle? : Option EnumStyle := none
deriving DecidableEq, Repr, Inhabited

namespace Preferences

/-- The later preferences laid over the earlier ones: what they leave open stays as it was. -/
def merge (earlier later : Preferences) : Preferences where
  useTab? := later.useTab?.or earlier.useTab?
  indentSpaces? := later.indentSpaces?.or earlier.indentSpaces?
  classSuffix? := later.classSuffix?.or earlier.classSuffix?
  interfaceSuffix? := later.interfaceSuffix?.or earlier.interfaceSuffix?
  docs? := later.docs?.or earlier.docs?
  strictTypes? := later.strictTypes?.or earlier.strictTypes?
  returnTypes? := later.returnTypes?.or earlier.returnTypes?
  enumStyle? := later.enumStyle?.or earlier.enumStyle?

/-- The indentation. Tabs, where they are asked for, prevail over any number of spaces. -/
def indent (preferences : Preferences) : IndentStyle :=
  if preferences.useTab? = some true then .tab
  else
    match preferences.indentSpaces? with
    | some count => .spaces count
    | none => ({} : Options).indent

/-- The options that the preferences decide, with the defaults for what they leave open. -/
def options (preferences : Preferences) : Options :=
  let defaults : Options := {}
  { indent := preferences.indent
    classSuffix := preferences.classSuffix?.getD defaults.classSuffix
    interfaceSuffix := preferences.interfaceSuffix?.getD defaults.interfaceSuffix
    docs := preferences.docs?.getD defaults.docs
    strictTypes := preferences.strictTypes?.getD defaults.strictTypes
    returnTypes := preferences.returnTypes?.getD defaults.returnTypes
    enumStyle := preferences.enumStyle?.getD defaults.enumStyle }

end Preferences

end Blueprint
