/-
Module: Blueprint.Output.FileTree
Purpose: A tree of directories and files with the operations that a program has on it. Every piece of a
  path but the last must lead through a directory; a dot stays in a directory and two dots leave it.
  Creating a directory with all that it lies in begins at the innermost one that is missing. Names
  and paths may be limited in length.
Main exports: Node, Limits, FileTree, FileTree.read, FileTree.write, FileTree.createDirs, FileTree.store
-/
import Blueprint.Output.Path
import Blueprint.Output.Target
import Blueprint.Text.Utf8

namespace Blueprint.Output

/-- What stands at a place of a file tree. -/
inductive Node where
  | directory
  | file (content : ByteArray)

/-- A place in a file tree: the names on the way to it. -/
abbrev Place := List String

/-- How many bytes a name and a path may have, where there is a limit. -/
structure Limits where
  name? : Option Nat := none
  path? : Option Nat := none
deriving DecidableEq, Repr, Inhabited

/-- The limits that are common on machines. -/
def Limits.common : Limits :=
  ⟨some 255, some 4095⟩

/-- The text has no more bytes than there may be. -/
def fits (limit? : Option Nat) (text : String) : Bool :=
  match limit? with
  | none => true
  | some limit => text.utf8ByteSize ≤ limit

/-- A tree of directories and files. The tree itself is a directory. -/
structure FileTree where
  nodes : List (Place × Node)
  limits : Limits := {}

namespace FileTree

/-- A directory with nothing in it. -/
def empty : FileTree where
  nodes := []

/-- A directory with nothing in it, and with limits on what can be put there. -/
def emptyWithin (limits : Limits) : FileTree :=
  ⟨[], limits⟩

/-- What stands at a place. -/
def lookup (tree : FileTree) (place : Place) : Option Node :=
  if place.isEmpty then some .directory else tree.nodes.lookup place

/-- A directory stands at a place. -/
def hasDirectory (tree : FileTree) (place : Place) : Bool :=
  match tree.lookup place with
  | some .directory => true
  | _ => false

/-- The nodes with one replaced, or with one more. -/
def replaceNode (place : Place) (node : Node) : List (Place × Node) → List (Place × Node)
  | [] => [(place, node)]
  | (other, old) :: rest =>
    if other = place then (place, node) :: rest else (other, old) :: replaceNode place node rest

/-- The tree with a node put at a place. -/
def put (tree : FileTree) (place : Place) (node : Node) : FileTree :=
  { tree with nodes := replaceNode place node tree.nodes }

/-! ### Following paths -/

/-- The pieces of a path between slashes. -/
def piecesOf (path : String) : List String :=
  (Text.splitText '/' path).filter (!·.isEmpty)

/-- The path ends in a slash, so it can only mean a directory. -/
def endsInSlash (path : String) : Bool :=
  path.toList.getLast? == some '/'

/-- Only a directory can be gone on from. -/
def expectDirectory (tree : FileTree) (place : Place) : Except FileError Unit :=
  match tree.lookup place with
  | some .directory => .ok ()
  | some (.file _) => .error .notDirectory
  | none => .error .notFound

/-- A name that is too long is refused before anything is looked up by it. -/
def checkName (tree : FileTree) (name : String) : Except FileError Unit :=
  if fits tree.limits.name? name then .ok () else .error .nameTooLong

/-- The place that pieces lead to from a place. -/
def follow (tree : FileTree) (place : Place) : List String → Except FileError Place
  | [] => .ok place
  | piece :: rest => do
    tree.expectDirectory place
    if piece == "." then tree.follow place rest
    else if piece == ".." then tree.follow place.dropLast rest
    else
      tree.checkName piece
      if (tree.lookup (place ++ [piece])).isSome then tree.follow (place ++ [piece]) rest
      else .error .notFound

/-- The directory that holds what the last piece names. -/
def parentOf (tree : FileTree) (pieces : List String) : Except FileError Place := do
  let parent ← tree.follow [] pieces.dropLast
  tree.expectDirectory parent
  return parent

/-- The piece names a directory relative to another and nothing in it. -/
def isRelative (piece : String) : Bool :=
  piece == "." || piece == ".."

/-- The pieces lead to a directory. -/
def isDirectory (tree : FileTree) (pieces : List String) : Bool :=
  match tree.follow [] pieces with
  | .ok place => tree.hasDirectory place
  | .error _ => false

/-- No path has a character without a code in it, and none is too long. -/
def checkPath (tree : FileTree) (path : String) : Except FileError Unit :=
  if path.toList.contains (Char.ofNat 0) then .error .nulInPath
  else if fits tree.limits.path? path then .ok ()
  else .error .nameTooLong

/-! ### Reading and writing -/

/-- The text of a file. -/
def read (tree : FileTree) (path : String) : Except FileError String := do
  tree.checkPath path
  if path.isEmpty then .error .notFound
  let place ← tree.follow [] (piecesOf path)
  match tree.lookup place with
  | some (.file content) =>
    if endsInSlash path then .error .notDirectory
    else
      match String.fromUTF8? content with
      | some text => .ok text
      | none => .error .notUtf8
  | some .directory => .error .isDirectory
  | none => .error .notFound

/-- The tree with a file written, any earlier content being replaced. -/
def write (tree : FileTree) (path text : String) : Except FileError FileTree := do
  tree.checkPath path
  match (piecesOf path).getLast? with
  | none => .error (if path.isEmpty then .notFound else .isDirectory)
  | some last =>
    let parent ← tree.parentOf (piecesOf path)
    let place := parent ++ [last]
    if endsInSlash path || isRelative last then .error .isDirectory
    else
      tree.checkName last
      if tree.hasDirectory place then .error .isDirectory
      else .ok (tree.put place (.file text.toUTF8))

/-! ### Creating directories -/

/-- The tree with one directory created in a directory that is there. -/
def createDir (tree : FileTree) (pieces : List String) : Except FileError FileTree := do
  match pieces.getLast? with
  | none => .error .alreadyExists
  | some last =>
    let parent ← tree.parentOf pieces
    let place := parent ++ [last]
    if isRelative last then .error .alreadyExists
    else
      tree.checkName last
      if (tree.lookup place).isSome then .error .alreadyExists
      else .ok (tree.put place .directory)

/-- The pieces of the paths that a path lies in, innermost first. The dots inside a path do not count. -/
def enclosing (path : String) : List (List String) :=
  ancestors (parts path).reverse.tail
where
  /-- The piece that a part stands for. -/
  pieceOf : PathPart → List String
    | .root => []
    | .here => ["."]
    | .up => [".."]
    | .name text => [text]
  /-- The pieces of a path and of all that it lies in, given its parts from the last to the first. -/
  ancestors : List PathPart → List (List String)
    | [] => []
    | last :: before => ((last :: before).reverse.flatMap pieceOf) :: ancestors before

/-- Create the first directory of a list in which each lies in the next one, creating the others first
    where they are missing. A directory that is there already is no failure; what has been created
    before a failure remains. -/
def createChain (tree : FileTree) : List (List String) → Except FileError Unit × FileTree
  | [] => (.ok (), tree)
  | pieces :: outer =>
    match tree.createDir pieces with
    | .ok tree => (.ok (), tree)
    | .error .notFound =>
      match tree.createChain outer with
      | (.error fault, tree) => (.error fault, tree)
      | (.ok (), tree) =>
        match tree.createDir pieces with
        | .ok tree => (.ok (), tree)
        | .error fault => (if tree.isDirectory pieces then .ok () else .error fault, tree)
    | .error fault => (if tree.isDirectory pieces then .ok () else .error fault, tree)

/-- Create a directory with all that it lies in. -/
def createDirs (tree : FileTree) (path : String) : Except FileError Unit × FileTree :=
  match tree.checkPath path with
  | .error fault => (.error fault, tree)
  | .ok () =>
    if (piecesOf path).isEmpty then (.ok (), tree)
    else tree.createChain (piecesOf path :: enclosing path)

/-- What the tree holds below a place, in the order of the paths from there: directories without a text,
    and files with theirs. -/
def listing (tree : FileTree) (base : Place) : List (String × Option String) :=
  let below := tree.nodes.filterMap fun (place, node) =>
    if base.isPrefixOf place && place.length > base.length then
      let path := "/".intercalate (place.drop base.length)
      match node with
      | .directory => some (path, none)
      | .file content => some (path, some (Text.decodeLossy content))
    else none
  below.mergeSort fun a b => a.1 ≤ b.1

/-- The tree as a store of what is generated below a directory. -/
def store (root : String) : Store FileTree where
  createDirectory path tree :=
    let full := joinPath root path
    match tree.createDirs full with
    | (.ok (), tree) => (.ok (), tree)
    | (.error cause, tree) => (.error (.createDirectory full cause), tree)
  writeFile path text tree :=
    let full := joinPath root path
    match tree.write full text with
    | .ok tree => (.ok (), tree)
    | .error cause => (.error (.writeFile full cause), tree)

end FileTree

end Blueprint.Output
