/-
Module: Blueprint.Generation
Purpose: Generating sources. A package, and the model itself, becomes a directory named after it with
  what it owns inside; a classifier becomes a file with its source unit. Elements without a name are
  skipped with all that they own, and use cases have no sources. The first request that the target
  refuses ends the run.
Main exports: generateElement, generate, generateModel
-/
import Blueprint.Output.Path
import Blueprint.Output.Target
import Blueprint.Php.Declaration

namespace Blueprint

open Output (Target OutputError Notice joinPath)
open Php (Options)

variable {m : Type → Type} [Monad m]

/-- Write the file of a classifier into a directory. -/
def generateFile (target : Target m) (model : Model) (options : Options) (id : ElementId)
    (element : Element) (directory : String) : ExceptT OutputError m Unit := do
  match Php.fileName? model options id, Php.unitOf? model options id with
  | some fileName, some unit =>
    target.report (.rendered element.content.label element.name unit.imports.length)
    let path := joinPath directory fileName
    target.writeFile path unit.finish
    target.report (.wrote path)
  | _, _ => target.report (.skipped element.content.label)

/-- Generate an element and what it owns into a directory, up to `depth` levels of packages. -/
def generateElement (target : Target m) (model : Model) (options : Options) :
    (depth : Nat) → ElementId → (directory : String) → ExceptT OutputError m Unit
  | 0, _, _ => pure ()
  | depth + 1, id, directory => do
    match model.element? id with
    | none => pure ()
    | some element =>
      match element.content with
      | .model | .package =>
        if element.name.isEmpty then target.report (.skipped element.content.label)
        else
          let path := joinPath directory element.name
          target.createDirectory path
          element.owned.forM fun child => generateElement target model options depth child path
      | .useCase _ => pure ()
      | .classifier _ _ => generateFile target model options id element directory

/-- Generate an element and everything it owns. No package lies deeper than there are elements. -/
def generate (target : Target m) (model : Model) (options : Options) (base : ElementId) :
    ExceptT OutputError m Unit :=
  if (model.element? base).isNone then
    throw (.generation ("element " ++ toString base ++ " does not exist"))
  else generateElement target model options model.elements.size base ""

/-- Generate the whole model. -/
def generateModel (target : Target m) (model : Model) (options : Options) :
    ExceptT OutputError m Unit :=
  generate target model options Model.root

end Blueprint
