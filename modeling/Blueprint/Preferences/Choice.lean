/-
Module: Blueprint.Preferences.Choice
Purpose: The choices that preferences can make, each known by its name, and how the value of a choice is
  read from what is written for it: in an attribute, where references still stand for characters, or as
  the text of an element, where they have been replaced.
Main exports: Choice, Choice.ofName?, Written, Preferences.choose
-/
import Blueprint.Preferences.Basic
import Blueprint.Preferences.Fault
import Blueprint.Text.Number

namespace Blueprint

open Php (EnumStyle)

/-- A choice about the sources. -/
inductive Choice where
  | useTab
  | indentSpaces
  | classSuffix
  | interfaceSuffix
  | docs
  | strictTypes
  | returnTypes
  | enumStyle
deriving DecidableEq, Repr

namespace Choice

/-- The name of the choice in documents. -/
def name : Choice → String
  | useTab => "useTab"
  | indentSpaces => "indentSpaces"
  | classSuffix => "classSuffix"
  | interfaceSuffix => "interfaceSuffix"
  | docs => "docs"
  | strictTypes => "strictTypes"
  | returnTypes => "returnTypes"
  | enumStyle => "enumStyle"

/-- All choices. -/
def all : List Choice :=
  [useTab, indentSpaces, classSuffix, interfaceSuffix, docs, strictTypes, returnTypes, enumStyle]

/-- The choice of the given name. -/
def ofName? (name : String) : Option Choice :=
  all.find? (·.name == name)

/-- A choice is found by its name: no two choices share one. -/
theorem ofName?_name (choice : Choice) : ofName? choice.name = some choice := by
  cases choice <;> decide +kernel

end Choice

/-- What is written for a choice. -/
inductive Written where
  | inAttribute (value : String)
  | asText (text : String)
deriving DecidableEq, Repr

namespace Written

/-- The text without white space at either end. -/
def withoutSpace (text : String) : List Char :=
  ((text.toList.dropWhile Markup.isSpace).reverse.dropWhile Markup.isSpace).reverse

/-- What is written, to the letter. -/
def raw : Written → String
  | inAttribute value => value
  | asText text => text

/-- What is written, with references replaced. -/
def readText : Written → Except PreferencesFault String
  | inAttribute value => (Markup.unescape value).mapError fun fault => .content (.escape fault)
  | asText text => .ok text

/-- A truth value. -/
def readBool (written : Written) : Except PreferencesFault Bool := do
  let text ← written.readText
  match String.ofList (withoutSpace text) with
  | "true" | "1" => return true
  | "false" | "0" => return false
  | _ => .error (.wrongType text "a boolean")

/-- A number. In an attribute none of its digits can be written as a reference. -/
def readSize (written : Written) : Except PreferencesFault Nat :=
  match Text.readSize? (withoutSpace written.raw) with
  | some number => .ok number
  | none => do .error (.wrongType (← written.readText) "usize")

/-- A style of enumerations, by its exact name. An element without text names the style `$text`. -/
def readEnumStyle (written : Written) : Except PreferencesFault EnumStyle := do
  match ← written.readText with
  | "native" => return .native
  | "splEnum" => return .splEnum
  | text => .error (.unknownStyle (if written = .asText "" then "$text" else text))

end Written

/-- The preferences with one choice made as is written for it. -/
def Preferences.choose (preferences : Preferences) (choice : Choice) (written : Written) :
    Except PreferencesFault Preferences := do
  match choice with
  | .useTab => return { preferences with useTab? := some (← written.readBool) }
  | .indentSpaces => return { preferences with indentSpaces? := some (← written.readSize) }
  | .classSuffix => return { preferences with classSuffix? := some (← written.readText) }
  | .interfaceSuffix => return { preferences with interfaceSuffix? := some (← written.readText) }
  | .docs => return { preferences with docs? := some (← written.readBool) }
  | .strictTypes => return { preferences with strictTypes? := some (← written.readBool) }
  | .returnTypes => return { preferences with returnTypes? := some (← written.readBool) }
  | .enumStyle => return { preferences with enumStyle? := some (← written.readEnumStyle) }

end Blueprint
