/-
Module: Blueprint.Output.Path
Purpose: Paths are texts, kept as they were built. What a path denotes is told by its parts: the pieces
  between slashes, without the empty ones and without single dots, except that a dot at the very
  beginning and the slash of an absolute path are parts of their own. Paths are compared by parts.
Main exports: PathPart, parts, compareParts, joinPath, parentParts?
-/
import Blueprint.Text.Lines

namespace Blueprint.Output

/-- A part of a path. -/
inductive PathPart where
  | root
  | here
  | up
  | name (text : String)
deriving DecidableEq, Repr

/-- The order of the kinds of parts. -/
def PathPart.rank : PathPart → Nat
  | root => 0
  | here => 1
  | up => 2
  | name _ => 3

/-- Parts are ordered by kind, and names among themselves by their characters. -/
def PathPart.compare : PathPart → PathPart → Ordering
  | name a, name b => Ord.compare a b
  | a, b => Ord.compare a.rank b.rank

/-- The parts that pieces stand for inside a path. -/
def innerParts (pieces : List String) : List PathPart :=
  pieces.filterMap fun piece =>
    if piece.isEmpty || piece == "." then none
    else if piece == ".." then some .up
    else some (.name piece)

/-- The parts of a path. -/
def parts (path : String) : List PathPart :=
  match Text.splitText '/' path with
  | "" :: rest => (if rest.isEmpty then [] else [.root]) ++ innerParts rest
  | "." :: rest => .here :: innerParts rest
  | pieces => innerParts pieces

/-- Paths are ordered part by part; a path comes before its continuations. -/
def compareParts : List PathPart → List PathPart → Ordering
  | [], [] => .eq
  | [], _ :: _ => .lt
  | _ :: _, [] => .gt
  | a :: as, b :: bs => (a.compare b).then (compareParts as bs)

/-- The path begins at the root of all paths. -/
def isAbsolute (path : String) : Bool :=
  path.toList.head? == some '/'

/-- The second path as seen from the first. An absolute path is the same from everywhere. -/
def joinPath (base path : String) : String :=
  if isAbsolute path || base.isEmpty then path
  else if base.toList.getLast? == some '/' then base ++ path
  else base ++ "/" ++ path

/-- The parts of the path that a path lies in; the root and the empty path lie in none. -/
def parentParts? (path : String) : Option (List PathPart) :=
  match (parts path).getLast? with
  | none | some .root => none
  | _ => some (parts path).dropLast

example : parts "/a/./b//../c/" = [.root, .name "a", .name "b", .up, .name "c"] := by decide +kernel

example : parts "./a/." = [.here, .name "a"] ∧ parts "" = [] ∧ parts "/" = [.root] := by decide +kernel

end Blueprint.Output
