import Conformance.Files.Store
import Conformance.Keyed

/-!
# Files in memory

A tree of directories and files that answers like the files of a system. A path is followed part by
part from the root of the tree; only a directory can be entered, and the tree cannot be left.

* `Conformance.FileTree.resolve` – what is at a path;
* `Conformance.FileTree.store` – the tree as a store of files.
-/

namespace Conformance

/-- A file or a directory. -/
inductive FileTree where
  /-- A file with its bytes. -/
  | file (content : ByteArray)
  /-- A directory, its entries in the order of their names. -/
  | directory (entries : List (String × FileTree))

namespace FileTree

/-- An empty directory. -/
def empty : FileTree := .directory []

/-- The entries of a directory; a file has none. -/
def entries : FileTree → List (String × FileTree)
  | .file _ => []
  | .directory entries => entries

/-- Puts something at a path below a directory, given by its parts; directories on the way are made
as needed. -/
def put (tree : FileTree) : List String → FileTree → FileTree
  | [], node => node
  | name :: rest, node =>
    let below := (Keyed.find? name tree.entries).getD empty
    .directory (Keyed.insert name (below.put rest node) tree.entries)

/-- Follows the parts of a path. `above` holds the directories that lead to the node, the nearest
one first. -/
def follow (above : List FileTree) (node : FileTree) : List String → Except FileError FileTree
  | [] => .ok node
  | part :: rest =>
    match node with
    | .file _ => .error .notADirectory
    | .directory entries =>
      if part == ".." then
        match above with
        | [] => .error .notFound
        | parent :: above => follow above parent rest
      else
        match Keyed.find? part entries with
        | none => .error .notFound
        | some next => follow (node :: above) next rest

/-- Whether a path asks for a directory by the way it ends. -/
def asksForDirectory (path : String) : Bool :=
  ((FilePath.splitSlashes path.toList).getLast?.map FilePath.isIdle).getD false

/-- What is at a path. -/
def resolve (root : FileTree) (path : String) : Except FileError FileTree :=
  if path.isEmpty || FilePath.isAbsolute path then .error .notFound
  else
    match root.follow [] (FilePath.parts path) with
    | .ok (.file content) =>
      if asksForDirectory path then .error .notADirectory else .ok (.file content)
    | r => r

/-- The text of a file. -/
def readText (root : FileTree) (path : String) : Except FileError String :=
  match root.resolve path with
  | .error e => .error e
  | .ok (.directory _) => .error .isADirectory
  | .ok (.file content) =>
    match String.fromUTF8? content with
    | some text => .ok text
    | none => .error .notText

/-- The names in a directory. -/
def names (root : FileTree) (path : String) : Except FileError (List String) :=
  match root.resolve path with
  | .error e => .error e
  | .ok (.file _) => .error .notADirectory
  | .ok (.directory entries) => .ok (Keyed.keys entries)

/-- Whether there is a directory at a path. -/
def hasDirectory (root : FileTree) (path : String) : Bool :=
  match root.resolve path with
  | .ok (.directory _) => true
  | _ => false

/-- Whether there is a file at a path. -/
def hasFile (root : FileTree) (path : String) : Bool :=
  match root.resolve path with
  | .ok (.file _) => true
  | _ => false

/-- The tree as a store of files. -/
def store (root : FileTree) : FileStore Id where
  read path := root.readText path
  list path := root.names path
  isDirectory path := root.hasDirectory path
  isFile path := root.hasFile path

end FileTree

end Conformance
