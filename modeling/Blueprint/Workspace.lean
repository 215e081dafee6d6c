/-
Module: Blueprint.Workspace
Purpose: Whole runs on files. A workspace is a place where files can be read and sources written, by
  whatever means its monad has; a file tree in memory is one. Models and preferences are loaded from
  their files, and the sources of a model document are generated into memory or into a directory.
Main exports: Workspace, Workspace.ofTree, LoadFault, loadModel, PreferencesLoadFault,
  loadPreferences, RunFault, sourcesOf, generateFrom
-/
import Blueprint.Document.Reading
import Blueprint.Generation
import Blueprint.Output.FileTree
import Blueprint.Output.Memory
import Blueprint.Preferences.Document

namespace Blueprint

open Output (FileError FileTree Logged Memory OutputError Target)
open Php (Options)

/-- A place where files can be read and sources written below a directory. -/
structure Workspace (m : Type → Type) where
  read : String → ExceptT FileError m String
  targetAt : String → Target m

/-- The workspace that a file tree is. -/
def Workspace.ofTree : Workspace (StateM (Logged FileTree)) where
  read path := fun logged => (logged.state.read path, logged)
  targetAt root := .ofStore (FileTree.store root)

/-! ### Loading -/

/-- Why a model cannot be loaded. -/
inductive LoadFault where
  | unreadable (cause : FileError)
  | document (fault : DocumentFault)
deriving DecidableEq, Repr

/-- The wording of a fault in loading a model. -/
def LoadFault.message : LoadFault → String
  | unreadable cause => "IO error: " ++ cause.message
  | document fault => fault.message

/-- Why preferences cannot be loaded. -/
inductive PreferencesLoadFault where
  | unreadable (cause : FileError)
  | document (fault : PreferencesFault)
deriving DecidableEq, Repr

/-- The wording of a fault in loading preferences. -/
def PreferencesLoadFault.message : PreferencesLoadFault → String
  | unreadable cause => "failed to read preferences: " ++ cause.message
  | document fault => "invalid preferences: " ++ fault.message

variable {m : Type → Type} [Monad m]

/-- The model in a file. -/
def loadModel (workspace : Workspace m) (path : String) : ExceptT LoadFault m Model := do
  let text ← (workspace.read path).adapt .unreadable
  match Model.ofDocument text with
  | .ok model => return model
  | .error fault => throw (.document fault)

/-- The preferences in a file. -/
def loadPreferences (workspace : Workspace m) (path : String) :
    ExceptT PreferencesLoadFault m Preferences := do
  let text ← (workspace.read path).adapt .unreadable
  match Preferences.ofDocument text with
  | .ok preferences => return preferences
  | .error fault => throw (.document fault)

/-! ### Running -/

/-- Why no sources can be generated from a document. -/
inductive RunFault where
  | unreadable (cause : FileError)
  | document (fault : DocumentFault)
  | output (fault : OutputError)
deriving DecidableEq, Repr

/-- The wording of a fault in a run. -/
def RunFault.message : RunFault → String
  | unreadable cause => "IO error: " ++ cause.message
  | document fault => "model parse error: " ++ fault.message
  | output fault => fault.message

/-- The files that the document of a model gives, with their paths, in the order of the paths. -/
def sourcesOf (document : String) (options : Options) : Except RunFault (List (String × String)) := do
  let model ← (Model.ofDocument document).mapError .document
  match (generateModel (.ofStore Memory.store) model options).run.run ⟨Memory.empty, []⟩ with
  | (.error fault, _) => .error (.output fault)
  | (.ok (), logged) =>
    return logged.state.files.entries.map fun entry => (entry.path, entry.value)

/-- Generate the sources of the model in a file below a directory. -/
def generateFrom (workspace : Workspace m) (path root : String) (options : Options) :
    ExceptT RunFault m Unit := do
  let text ← (workspace.read path).adapt .unreadable
  match Model.ofDocument text with
  | .error fault => throw (.document fault)
  | .ok model => (generateModel (workspace.targetAt root) model options).adapt .output

end Blueprint
