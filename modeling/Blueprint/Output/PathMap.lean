/-
Module: Blueprint.Output.PathMap
Purpose: Values stored at paths. Two paths with the same parts are one key: the spelling that was stored
  first is kept, and the value that was stored last. The entries are in the order of their paths.
Main exports: PathEntry, PathMap, PathMap.insert, PathMap.find?, PathMap.containsKey
-/
import Blueprint.Output.Path

namespace Blueprint.Output

/-- A value stored at a path; `key` holds the parts of the path. -/
structure PathEntry (α : Type) where
  key : List PathPart
  path : String
  value : α
deriving DecidableEq, Repr

/-- Values stored at paths, in order. -/
structure PathMap (α : Type) where
  entries : List (PathEntry α) := []
deriving DecidableEq, Repr

namespace PathMap

variable {α : Type}

/-- Nothing stored. -/
def empty : PathMap α :=
  {}

/-- The entries with a new one in its place, or with the value of the entry that has its key
    replaced. -/
def insertEntry (new : PathEntry α) : List (PathEntry α) → List (PathEntry α)
  | [] => [new]
  | entry :: rest =>
    match compareParts new.key entry.key with
    | .lt => new :: entry :: rest
    | .eq => { entry with value := new.value } :: rest
    | .gt => entry :: insertEntry new rest

/-- The map with a value stored at a path. -/
def insert (map : PathMap α) (path : String) (value : α) : PathMap α :=
  ⟨insertEntry ⟨parts path, path, value⟩ map.entries⟩

/-- The value stored at the path with the given parts. -/
def findKey? (map : PathMap α) (key : List PathPart) : Option α :=
  (map.entries.find? (·.key == key)).map PathEntry.value

/-- The value stored at a path. -/
def find? (map : PathMap α) (path : String) : Option α :=
  map.findKey? (parts path)

/-- A value is stored at the path with the given parts. -/
def containsKey (map : PathMap α) (key : List PathPart) : Bool :=
  map.entries.any (·.key == key)

/-- The number of paths. -/
def size (map : PathMap α) : Nat :=
  map.entries.length

end PathMap

end Blueprint.Output
