/-
Module: Blueprint.Output.FileError
Purpose: Why a file operation fails, and what is said about it.
Main exports: FileError, OutputError
-/

namespace Blueprint.Output

/-- Why a file operation fails. -/
inductive FileError where
  | notFound
  | notDirectory
  | isDirectory
  | alreadyExists
  | notUtf8
  | nulInPath
  | nameTooLong
  | missingParent
  | other (text : String)
deriving DecidableEq, Repr

/-- The wording of a file error. -/
def FileError.message : FileError → String
  | notFound => "No such file or directory (os error 2)"
  | notDirectory => "Not a directory (os error 20)"
  | isDirectory => "Is a directory (os error 21)"
  | alreadyExists => "File exists (os error 17)"
  | notUtf8 => "stream did not contain valid UTF-8"
  | nulInPath => "file name contained an unexpected NUL byte"
  | nameTooLong => "File name too long (os error 36)"
  | missingParent => "parent directory was not created"
  | other text => text

/-- Why output cannot be produced. -/
inductive OutputError where
  | createDirectory (path : String) (cause : FileError)
  | writeFile (path : String) (cause : FileError)
  | generation (message : String)
deriving DecidableEq, Repr

/-- The wording of an output error. -/
def OutputError.message : OutputError → String
  | createDirectory path cause => "failed to create directory '" ++ path ++ "': " ++ cause.message
  | writeFile path cause => "failed to write file '" ++ path ++ "': " ++ cause.message
  | generation message => "generation error: " ++ message

end Blueprint.Output
