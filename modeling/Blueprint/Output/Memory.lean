/-
Module: Blueprint.Output.Memory
Purpose: Output kept in memory: the directories created and the files written. A file is only taken when
  the directory that it lies in has been created; a file that lies in none is always taken.
Main exports: Memory, Memory.createDirectory, Memory.writeFile, Memory.store
-/
import Blueprint.Output.PathMap
import Blueprint.Output.Target

namespace Blueprint.Output

/-- Output kept in memory. -/
structure Memory where
  directories : PathMap Unit := .empty
  files : PathMap String := .empty
deriving DecidableEq, Repr

namespace Memory

/-- Nothing created and nothing written. -/
def empty : Memory :=
  {}

/-- The memory with a directory created. -/
def createDirectory (memory : Memory) (path : String) : Memory :=
  { memory with directories := memory.directories.insert path () }

/-- The directory that a path lies in has been created, or the path lies in none. -/
def admits (memory : Memory) (path : String) : Bool :=
  match parentParts? path with
  | none | some [] => true
  | some parent => memory.directories.containsKey parent

/-- The memory with a file written, any earlier content being replaced. -/
def writeFile (memory : Memory) (path text : String) : Except OutputError Memory :=
  if memory.admits path then .ok { memory with files := memory.files.insert path text }
  else .error (.writeFile path .missingParent)

/-- The memory as a store; a file that is refused changes nothing. -/
def store : Store Memory where
  createDirectory path memory := (.ok (), memory.createDirectory path)
  writeFile path text memory :=
    match memory.writeFile path text with
    | .ok memory => (.ok (), memory)
    | .error fault => (.error fault, memory)

end Memory

end Blueprint.Output
