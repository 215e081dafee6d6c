/-
Module: Blueprint.Preferences.Fault
Purpose: What can be wrong with a preferences document, as causes, and the wording of each cause.
Main exports: PreferencesFault
-/
import Blueprint.Markup.Remainder

namespace Blueprint

open Markup (AttributeFault ContentFault)

/-- What is wrong with a preferences document. -/
inductive PreferencesFault where
  | content (fault : ContentFault)
  | faultyAttribute (fault : AttributeFault)
  | wrongType (text expected : String)
  | unknownStyle (text : String)
  | repeated (name : String)
deriving DecidableEq, Repr

/-- The wording of a fault of a preferences document. -/
def PreferencesFault.message : PreferencesFault → String
  | content fault => fault.message
  | faultyAttribute fault => "error while parsing attribute: " ++ fault.message
  | wrongType text expected =>
    "invalid type: string " ++ Text.quoted text ++ ", expected " ++ expected
  | unknownStyle text => "unknown variant `" ++ text ++ "`, expected `native` or `splEnum`"
  | repeated name => "duplicate field `@" ++ name ++ "`"

end Blueprint
