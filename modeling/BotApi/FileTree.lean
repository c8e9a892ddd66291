import BotApi.PosixPath
import BotApi.Table

/-!
# File trees

The files around a working directory and the directories that hold them. A place is the list of names that
lead to it, from the working directory, from one above it, or from the root. Nothing is written before its
directory exists.

## Main results

* `FileTree.read?_put` — what writing a file does to the contents of all files.
-/

namespace BotApi

/-- The names that lead to a file or a directory. The names of parent directories stand in front, and so does
that of the root. -/
abbrev Place := List String

/-- Files with their contents, and directories. -/
structure FileTree where
  files : List (Place × String)
  dirs : List Place

/-- Why an operation on a tree fails. -/
inductive FileFault
  | notFound
  | notDirectory
  | isDirectory
  | exists
  | tooLong
  | nulInName
  deriving DecidableEq

namespace FileTree

/-- The tree without files. -/
def empty : FileTree := ⟨[], []⟩

/-- The content of a file. -/
def read? (tree : FileTree) (place : Place) : Option String := Entries.find? place tree.files

/-- Whether a file is there. -/
def hasFile (tree : FileTree) (place : Place) : Bool := (tree.read? place).isSome

/-- Whether a place is the working directory, one above it, or the root. -/
def isBase (place : Place) : Bool := place.all (· = "..") || place = ["/"]

/-- Whether a directory is there. -/
def hasDir (tree : FileTree) (place : Place) : Bool := isBase place || tree.dirs.contains place

/-- The tree with a file of that content. -/
def put (tree : FileTree) (place : Place) (content : String) : FileTree :=
  { tree with files := Entries.put place content tree.files }

/-- Writing a file changes the content of that file, and of no other. -/
theorem read?_put (tree : FileTree) (place other : Place) (content : String) :
    (tree.put place content).read? other = if other = place then some content else tree.read? other :=
  Entries.lookup_put place other content tree.files

/-- The tree with a directory. -/
def addDir (tree : FileTree) (place : Place) : FileTree :=
  if tree.hasDir place then tree else { tree with dirs := tree.dirs ++ [place] }

/-- The place of a name in a directory. The name of the parent directory leads back. -/
def step (place : Place) (name : String) : Place :=
  if name = ".." && place = ["/"] then place
  else if name = ".." && !isBase place then place.dropLast
  else place ++ [name]

/-- Where a path starts. -/
def start (path : PosixPath) : Place := if path.root = 0 then [] else ["/"]

/-- The most octets in a name. -/
def maxName : Nat := 255

/-- The most octets in the text of a path. -/
def maxPath : Nat := 4095

/-- Where the names of a path lead. Each name before the last has to be that of a directory. -/
def walk (tree : FileTree) (place : Place) : List String → Except FileFault Place
  | [] => .ok place
  | name :: rest =>
    if tree.hasFile place then .error .notDirectory
    else if !tree.hasDir place then .error .notFound
    else if maxName < name.utf8ByteSize then .error .tooLong
    else tree.walk (step place name) rest

/-- The place of a path. -/
def find (tree : FileTree) (path : PosixPath) : Except FileFault Place :=
  if path.parts.any fun name => name.toList.contains (Char.ofNat 0) then .error .nulInName
  else if maxPath < path.toText.utf8ByteSize then .error .tooLong
  else tree.walk (start path) path.parts

/-- Makes a directory in one that is there, if it is not there itself. -/
def makeDir (tree : FileTree) (path : PosixPath) : Except FileFault FileTree := do
  let place ← tree.find path
  if tree.hasDir place then pure tree
  else if tree.hasFile place then throw .exists
  else pure (tree.addDir place)

/-- Makes the directory of names, the last of them first, once those above it are made if it has to wait for
them. -/
def makeDirsUpTo (tree : FileTree) (root : Nat) : List String → Except FileFault FileTree
  | [] => .ok tree
  | name :: above =>
    let path : PosixPath := ⟨root, (name :: above).reverse⟩
    -- only a missing directory above is made up for; anything else in the way is a fault
    match tree.makeDir path with
    | .error .notFound => do (← tree.makeDirsUpTo root above).makeDir path
    | result => result

/-- Makes a directory and those that lead to it, as far as they are not there. -/
def makeDirs (tree : FileTree) (path : PosixPath) : Except FileFault FileTree :=
  tree.makeDirsUpTo path.root path.parts.reverse

/-- Writes a file. -/
def write (tree : FileTree) (path : PosixPath) (content : String) : Except FileFault FileTree := do
  let place ← tree.find path
  if tree.hasDir place then throw .isDirectory
  pure (tree.put place content)

/-- Reads a file. -/
def read (tree : FileTree) (path : PosixPath) : Except FileFault String := do
  let place ← tree.find path
  if tree.hasDir place then throw .isDirectory
  match tree.read? place with
  | some content => pure content
  | none => throw .notFound

/-- Whether a path leads to a file or a directory. -/
def hasPath (tree : FileTree) (path : PosixPath) : Bool :=
  match tree.find path with
  | .ok place => tree.hasDir place || tree.hasFile place
  | .error _ => false

/-- The places that lead to a place, the place itself left out. -/
def ancestors (place : Place) : List Place :=
  (List.range place.length).map fun n => place.take n

/-- The tree with a file at a path, and the directories that lead to it. -/
def insert (tree : FileTree) (path : PosixPath) (content : String) : FileTree :=
  let place := path.parts.foldl step (start path)
  ((ancestors place).foldl addDir tree).put place content

/-- Writes a file, once its directory is made as far as it is not there. -/
def store (tree : FileTree) (path : PosixPath) (content : String) : Except FileFault FileTree := do
  (← tree.makeDirs path.parent).write path content

/-- The tree of files under their paths, stored one after another. -/
def ofFiles (files : List (String × String)) : Except FileFault FileTree :=
  files.foldlM (fun tree e => tree.store (.ofText e.1) e.2) empty

/-- The path of a place. -/
def pathText : Place → String
  | "/" :: names => "/" ++ "/".intercalate names
  | names => "/".intercalate names

/-- The files whose content is not that in an earlier tree, under their paths. -/
def changes (tree earlier : FileTree) : List (String × String) :=
  (tree.files.filter fun e => earlier.read? e.1 ≠ some e.2).map fun e => (pathText e.1, e.2)

/-- The files below the working directory under their paths, in the order of the paths. -/
def list (tree : FileTree) : List (String × String) :=
  let below := tree.files.filter fun e => e.1.head? ≠ some ".." && e.1.head? ≠ some "/"
  (below.map fun e => (pathText e.1, e.2)).mergeSort fun a b => a.1 ≤ b.1

end FileTree

end BotApi
