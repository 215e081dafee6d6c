/-
Module: Blueprint.Command.Arguments
Purpose: The arguments of the command line. Options may come before and after the model, and each may be
  given once. A value follows its option as the next argument, or in the same argument, after an
  equals sign or directly after a single letter. Two hyphens end the options. Asking for help or for
  the version ends the reading; so does the first mistake.
Main exports: Flag, Setting, Arguments, Invocation, Invocation.ofArguments, Arguments.overrides
-/
import Blueprint.Preferences.Basic
import Blueprint.Text.Number
import Blueprint.Text.Search

namespace Blueprint.Command

open Blueprint.Php (EnumStyle)

/-- An option without a value. -/
inductive Flag where
  | tabs
  | noDocs
  | strictTypes
  | returnTypes
  | check
  | help
  | version
deriving DecidableEq, Repr

/-- An option with a value. -/
inductive Setting where
  | out
  | base
  | preferences
  | indent
  | classSuffix
  | interfaceSuffix
  | enumStyle
deriving DecidableEq, Repr

/-- The flag of a name. -/
def Flag.ofName? (name : String) : Option Flag :=
  [("tabs", tabs), ("no-docs", noDocs), ("strict-types", strictTypes),
    ("return-types", returnTypes), ("check", check), ("help", help), ("version", version)].lookup name

/-- The flag of a letter. -/
def Flag.ofLetter? (letter : Char) : Option Flag :=
  [('h', help), ('V', version)].lookup letter

/-- The setting of a name. -/
def Setting.ofName? (name : String) : Option Setting :=
  [("out", out), ("base", base), ("preferences", preferences), ("indent", indent),
    ("class-suffix", classSuffix), ("interface-suffix", interfaceSuffix),
    ("enum-style", enumStyle)].lookup name

/-- The setting of a letter. -/
def Setting.ofLetter? (letter : Char) : Option Setting :=
  [('o', out), ('b', base), ('p', preferences)].lookup letter

/-- What the command line says. -/
structure Arguments where
  model? : Option String := none
  out? : Option String := none
  base? : Option String := none
  preferences? : Option String := none
  tabs : Bool := false
  indent? : Option Nat := none
  classSuffix? : Option String := none
  interfaceSuffix? : Option String := none
  noDocs : Bool := false
  strictTypes : Bool := false
  returnTypes : Bool := false
  enumStyle? : Option EnumStyle := none
  check : Bool := false
deriving DecidableEq, Repr, Inhabited

/-- Why the reading of a command line ends early. -/
inductive Stop where
  | information
  | misuse
deriving DecidableEq, Repr

namespace Arguments

/-! ### Single arguments -/

/-- A path that is not empty. -/
def readPath (value : String) : Except Stop String :=
  if value.isEmpty then .error .misuse else .ok value

/-- A value for an option that has none yet. -/
def once {α : Type} (current : Option α) (read : Except Stop α) : Except Stop (Option α) :=
  if current.isSome then .error .misuse else read.map some

/-- A flag that has not been given yet. -/
def onceFlag (current : Bool) : Except Stop Bool :=
  if current then .error .misuse else .ok true

/-- A value or a mistake. -/
def orMisuse {α : Type} : Option α → Except Stop α
  | some value => .ok value
  | none => .error .misuse

/-- The style of enumerations of a name. -/
def enumStyleOf? (value : String) : Option EnumStyle :=
  [("native", EnumStyle.native), ("spl-enum", .splEnum)].lookup value

/-- The arguments with a flag taken into them. -/
def takeFlag (arguments : Arguments) : Flag → Except Stop Arguments
  | .help | .version => .error .information
  | .tabs => do return { arguments with tabs := ← onceFlag arguments.tabs }
  | .noDocs => do return { arguments with noDocs := ← onceFlag arguments.noDocs }
  | .strictTypes => do return { arguments with strictTypes := ← onceFlag arguments.strictTypes }
  | .returnTypes => do return { arguments with returnTypes := ← onceFlag arguments.returnTypes }
  | .check => do return { arguments with check := ← onceFlag arguments.check }

/-- The arguments with a setting taken into them. -/
def takeSetting (arguments : Arguments) (setting : Setting) (value : String) :
    Except Stop Arguments := do
  match setting with
  | .out => return { arguments with out? := ← once arguments.out? (readPath value) }
  | .base => return { arguments with base? := ← once arguments.base? (.ok value) }
  | .preferences =>
    return { arguments with preferences? := ← once arguments.preferences? (readPath value) }
  | .indent =>
    return {
      arguments with
      indent? := ← once arguments.indent? (orMisuse (Text.readSize? value.toList)) }
  | .classSuffix => return { arguments with classSuffix? := ← once arguments.classSuffix? (.ok value) }
  | .interfaceSuffix =>
    return { arguments with interfaceSuffix? := ← once arguments.interfaceSuffix? (.ok value) }
  | .enumStyle =>
    return {
      arguments with
      enumStyle? := ← once arguments.enumStyle? (orMisuse (enumStyleOf? value)) }

/-- The arguments with the path of the model taken into them. -/
def takeModel (arguments : Arguments) (value : String) : Except Stop Arguments := do
  return { arguments with model? := ← once arguments.model? (readPath value) }

/-! ### Whole command lines -/

/-- The next argument may be the value of an option: it does not look like an option itself. -/
def isValue (argument : String) : Bool :=
  argument == "-" || argument.toList.head? != some '-'

/-- What an argument asks for: nothing more, or a value that is still to come. -/
inductive Outcome where
  | done (arguments : Arguments)
  | waiting (arguments : Arguments) (setting : Setting)

/-- An option by its name, with the value after an equals sign, if there is one. -/
def takeLong (arguments : Arguments) (text : List Char) : Except Stop Outcome := do
  let name := String.ofList (text.takeWhile (· != '='))
  match Flag.ofName? name, Setting.ofName? name, text.dropWhile (· != '=') with
  | some flag, _, [] => return .done (← arguments.takeFlag flag)
  | _, some setting, [] => return .waiting arguments setting
  | _, some setting, _ :: value =>
    return .done (← arguments.takeSetting setting (String.ofList value))
  | _, _, _ => .error .misuse

/-- Options by their letters. A letter that takes a value takes the rest of the argument, less an
    equals sign at its beginning. -/
def takeLetters (arguments : Arguments) : List Char → Except Stop Outcome
  | [] => .ok (.done arguments)
  | letter :: rest =>
    match Flag.ofLetter? letter, Setting.ofLetter? letter with
    | some flag, _ => do (← arguments.takeFlag flag).takeLetters rest
    | _, some setting =>
      match rest with
      | [] => .ok (.waiting arguments setting)
      | '=' :: value => do return .done (← arguments.takeSetting setting (String.ofList value))
      | value => do return .done (← arguments.takeSetting setting (String.ofList value))
    | _, _ => .error .misuse

/-- What one argument before the end of the options says. -/
def takeArgument (arguments : Arguments) (argument : String) : Except Stop Outcome :=
  match argument.toList with
  | '-' :: '-' :: text => arguments.takeLong text
  | '-' :: letter :: letters => arguments.takeLetters (letter :: letters)
  | _ => do return .done (← arguments.takeModel argument)

/-- What a command line says, given what has been read of it. -/
def takeAll (arguments : Arguments) : List String → Except Stop Arguments
  | [] => .ok arguments
  | "--" :: rest => rest.foldlM takeModel arguments
  | argument :: rest =>
    match arguments.takeArgument argument with
    | .error stop => .error stop
    | .ok (.done arguments) => arguments.takeAll rest
    | .ok (.waiting arguments setting) =>
      match rest with
      | [] => .error .misuse
      | value :: rest =>
        if isValue value then
          match arguments.takeSetting setting value with
          | .error stop => .error stop
          | .ok arguments => arguments.takeAll rest
        else .error .misuse

/-- The preferences that the command line sets. -/
def overrides (arguments : Arguments) : Preferences where
  useTab? := if arguments.tabs then some true else none
  indentSpaces? := arguments.indent?
  classSuffix? := arguments.classSuffix?
  interfaceSuffix? := arguments.interfaceSuffix?
  docs? := if arguments.noDocs then some false else none
  strictTypes? := if arguments.strictTypes then some true else none
  returnTypes? := if arguments.returnTypes then some true else none
  enumStyle? := arguments.enumStyle?

/-- The directory that sources are generated into. -/
def outDirectory (arguments : Arguments) : String :=
  arguments.out?.getD "."

end Arguments

/-- What a command line asks for: a run for a model, information, or nothing that makes sense. -/
inductive Invocation where
  | run (model : String) (arguments : Arguments)
  | information
  | misuse
deriving DecidableEq, Repr

/-- A run needs a model, and cannot indent with tabs and spaces at once. -/
def Invocation.ofArguments (arguments : List String) : Invocation :=
  match Arguments.takeAll {} arguments with
  | .error .information => information
  | .error .misuse => misuse
  | .ok arguments =>
    match arguments.model? with
    | none => misuse
    | some model =>
      if arguments.tabs && arguments.indent?.isSome then misuse else run model arguments

end Blueprint.Command
