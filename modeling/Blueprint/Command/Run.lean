/-
Module: Blueprint.Command.Run
Purpose: What the command line does: load preferences and the model, check the model if asked to, find
  the element to begin with, and generate. The first step that fails ends the run, and nothing is
  written before the last one.
Main exports: Failure, Outcome, prepare, execute, runCommand
-/
import Blueprint.Command.Arguments
import Blueprint.Model.Validation
import Blueprint.Workspace

namespace Blueprint.Command

open Blueprint.Output (Target)
open Blueprint.Php (Options)

/-- What failed, and why if there is more to say. -/
structure Failure where
  context : String
  cause? : Option String
deriving DecidableEq, Repr

/-- How a command ends. -/
inductive Outcome where
  | success
  | information
  | failure (failure : Failure)
  | misuse
deriving DecidableEq, Repr

/-- The exit code of a command. -/
def Outcome.code : Outcome → UInt32
  | success | information => 0
  | failure _ => 1
  | misuse => 2

variable {m : Type → Type} [Monad m]

/-- The failure of a step, told in its context. -/
def inContext {ε α : Type} (context : String) (message : ε → String) (step : ExceptT ε m α) :
    ExceptT Failure m α :=
  step.adapt fun fault => ⟨context, some (message fault)⟩

/-- The preferences of the command line: those of the file, if one is given, with the options of the
    command line laid over them. -/
def preferencesOf (workspace : Workspace m) (arguments : Arguments) :
    ExceptT Failure m Preferences := do
  let base ←
    match arguments.preferences? with
    | none => pure {}
    | some path =>
      inContext ("failed to load preferences " ++ path) PreferencesLoadFault.message
        (loadPreferences workspace path)
  return base.merge arguments.overrides

/-- The element to begin with: the whole model, if none is named. -/
def baseOf (model : Model) (arguments : Arguments) : Except Failure ElementId :=
  match arguments.base? with
  | none => .ok Model.root
  | some name =>
    match model.findElement name with
    | some id => .ok id
    | none => .error ⟨"unknown base element '" ++ name ++ "'", none⟩

/-- Everything that is done before sources are generated. -/
def prepare (workspace : Workspace m) (modelPath : String) (arguments : Arguments) :
    ExceptT Failure m (Model × Options × ElementId) := do
  let preferences ← preferencesOf workspace arguments
  let model ←
    inContext ("failed to parse model " ++ modelPath) LoadFault.message
      (loadModel workspace modelPath)
  if arguments.check then
    inContext "model validation failed" Violation.message (ExceptT.mk (pure model.validate))
    (workspace.targetAt arguments.outDirectory).report (.valid (model.nameOf Model.root))
  let base ← ExceptT.mk (pure (baseOf model arguments))
  return (model, preferences.options, base)

/-- A whole run for a model. -/
def execute (workspace : Workspace m) (modelPath : String) (arguments : Arguments) :
    ExceptT Failure m Unit := do
  let (model, options, base) ← prepare workspace modelPath arguments
  let target := workspace.targetAt arguments.outDirectory
  inContext ("failed to generate into " ++ arguments.outDirectory) Output.OutputError.message
    (generate target model options base)
  target.report .finished

/-- What a command line does in a workspace. -/
def runCommand (workspace : Workspace m) (arguments : List String) : m Outcome := do
  match Invocation.ofArguments arguments with
  | .information => return .information
  | .misuse => return .misuse
  | .run modelPath arguments =>
    match ← (execute workspace modelPath arguments).run with
    | .ok () => return .success
    | .error fault => return .failure fault

end Blueprint.Command
