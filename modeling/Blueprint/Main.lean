/-
Module: Blueprint.Main
Purpose: The command line on the files of the machine. Everything that is decided is decided by
  `Command.runCommand`; here files are read and written, notices that matter are printed, and the
  outcome becomes an exit code.
Main exports: main
-/
import Blueprint.Command.Run

namespace Blueprint.Main

open Blueprint.Output (FileError Notice Target)

/-- The numbers of the error that a directory stands where a file is needed, in either sign. -/
def directoryCodes : List UInt32 :=
  [21, 0 - 21]

/-- The numbers of the error that a name or a path is too long, in either sign. -/
def lengthCodes : List UInt32 :=
  [36, 0 - 36]

/-- What an error of the machine says about a file. -/
def causeOf : IO.Error → FileError
  | .noFileOrDirectory .. => .notFound
  | .alreadyExists .. => .alreadyExists
  | .inappropriateType _ code _ =>
    if directoryCodes.contains code then .isDirectory else .notDirectory
  | fault =>
    match fault with
    | .invalidArgument _ code _ =>
      if lengthCodes.contains code then .nameTooLong else .other (toString fault)
    | _ => .other (toString fault)

/-- An action on files, with what went wrong as a cause. -/
def attempt {α : Type} (action : IO α) : IO (Except FileError α) := do
  match ← action.toBaseIO with
  | .ok value => return .ok value
  | .error fault => return .error (causeOf fault)

/-- The text of a file of the machine. -/
def readFile (path : String) : IO (Except FileError String) := do
  match ← attempt (IO.FS.readBinFile path) with
  | .error cause => return .error cause
  | .ok content =>
    match String.fromUTF8? content with
    | some text => return .ok text
    | none => return .error .notUtf8

/-- Create a directory with all that it lies in. What is there already is left alone; a file on the way
    to the directory is an error of its own. -/
def createDirectories (path : String) : IO (Except FileError Unit) := do
  match ← attempt (IO.FS.createDir path) with
  | .error .notFound | .error .alreadyExists => attempt (IO.FS.createDirAll path)
  | outcome => return outcome

/-- Print a notice, if it is one that is shown. -/
def showNotice (notice : Notice) : IO Unit := do
  if notice.isShown then IO.println notice.line

/-- The files of the machine below a directory, as a target. -/
def filesBelow (root : String) : Target IO where
  createDirectory path :=
    let full := Output.joinPath root path
    (ExceptT.mk (createDirectories full)).adapt (.createDirectory full)
  writeFile path text :=
    let full := Output.joinPath root path
    (ExceptT.mk (attempt (IO.FS.writeFile full text))).adapt (.writeFile full)
  report := showNotice

/-- The files of the machine. -/
def machine : Workspace IO where
  read path := ExceptT.mk (readFile path)
  targetAt := filesBelow

/-- What is said about the command line itself. -/
def usage : String :=
  "Usage: blueprint [OPTIONS] <MODEL>"

/-- Say how a command ended, as far as it has not been said yet. -/
def showOutcome : Command.Outcome → IO Unit
  | .success => return ()
  | .information => IO.println usage
  | .misuse => IO.eprintln usage
  | .failure failure => do
    IO.eprintln ("Error: " ++ failure.context)
    match failure.cause? with
    | some cause => IO.eprintln ("\nCaused by:\n    " ++ cause)
    | none => return ()

end Blueprint.Main

/-- Run the command line. -/
def main (arguments : List String) : IO UInt32 := do
  let outcome ← Blueprint.Command.runCommand Blueprint.Main.machine arguments
  Blueprint.Main.showOutcome outcome
  return outcome.code
