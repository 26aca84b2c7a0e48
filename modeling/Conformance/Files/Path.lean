import Conformance.Source.Basic

/-!
# Paths of files

A path is a text whose parts stand between slashes. Empty parts and parts that are a single point
say nothing, except that a leading slash makes the path absolute and a leading point stays visible
in the path of a directory.

* `Conformance.FilePath.fileName?`, `Conformance.FilePath.extension?` – the last part, and its end
  behind the last point;
* `Conformance.FilePath.parent?` – the path without its last part;
* `Conformance.FilePath.join` – a path taken from a directory;
* `Conformance.FilePath.format` – the text format of a file.
-/

namespace Conformance.FilePath

/-- Splits at every slash; the parts between, in order. -/
def splitSlashes : List Char → List (List Char)
  | [] => [[]]
  | c :: rest =>
    if c == '/' then [] :: splitSlashes rest
    else
      match splitSlashes rest with
      | part :: parts => (c :: part) :: parts
      | [] => [[c]]

/-- Whether the path starts at the root of all files. -/
def isAbsolute (path : String) : Bool := path.toList.head? == some '/'

/-- Whether a part of a path says nothing. -/
def isIdle (part : List Char) : Bool := part.isEmpty || part == ['.']

/-- The parts of a path that say something. -/
def parts (path : String) : List String :=
  ((splitSlashes path.toList).filter fun p => !isIdle p).map String.ofList

/-- The last part of a path, unless it leads upwards. -/
def fileName? (path : String) : Option String :=
  match (parts path).getLast? with
  | none => none
  | some name => if name == ".." then none else some name

/-- Splits at the last point, if there is one behind the first character. -/
def splitLastPoint? (name : List Char) : Option (List Char × List Char) :=
  let (ending, stem) := name.reverse.span (· != '.')
  match stem with
  | _ :: c :: rest => some ((c :: rest).reverse, ending.reverse)
  | _ => none

/-- The part of the file name behind its last point. -/
def extension? (path : String) : Option String := do
  let name ← fileName? path
  let (_, ending) ← splitLastPoint? name.toList
  return String.ofList ending

/-- Files that end in `.yaml` or `.yml` are YAML, all others JSON. -/
def format (path : String) : Format :=
  match extension? path with
  | some "yaml" => .yaml
  | some "yml" => .yaml
  | _ => .json

/-- Drops idle parts at the end of a list of parts that is given in reverse; the very first part of
the path stays. -/
def dropIdle : List (List Char) → List (List Char)
  | [] => []
  | [part] => [part]
  | part :: rest => if isIdle part then dropIdle rest else part :: rest

/-- Parts with a slash between each two. -/
def joinSlashes (parts : List (List Char)) : List Char := ['/'].intercalate parts

/-- The path without its last part; the root of all files and the empty path have none. -/
def parent? (path : String) : Option String :=
  match dropIdle (splitSlashes path.toList).reverse with
  | [] => none
  | [part] => if part.isEmpty then none else some ""
  | _ :: rest =>
    match dropIdle rest with
    | [[]] => some "/"
    | rest => some (String.ofList (joinSlashes rest.reverse))

/-- A path taken from a directory: an absolute path stays as it is, any other is put behind the
directory, after one slash. -/
def join (base path : String) : String :=
  if isAbsolute path || base.isEmpty then path
  else if base.toList.getLast? == some '/' then base ++ path
  else base ++ "/" ++ path

end Conformance.FilePath
