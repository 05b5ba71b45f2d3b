import VendorSql.Files
import VendorSql.Text.Parts

/-!
# Files in memory

A tree of files with a place in it from which relative paths start. A directory exists where a file
lies below it or the working directory does. A path is followed name by name; what lies above or
outside the tree is one directory in which nothing is known.
-/
namespace VendorSql

/-- Files by their paths from the top, and the working directory. -/
structure FileTree where
  contents : List (List String × String)
  here : List String
  deriving Repr

/-- Where a path has led so far. -/
inductive Place where
  | outside
  | directory (path : List String)
  | file (content : String)
  deriving Repr, DecidableEq

namespace FileTree

/-- The longest name a directory can hold, in bytes. -/
def maxName : Nat := 255

/-- No path has that many bytes. -/
def pathLimit : Nat := 4096

def namesIn (path : String) : List String :=
  (Text.parts '/' path.toList).map String.ofList

/-- The path from the top that a relative path means by its names alone. -/
def simplified (path : String) : List String :=
  (namesIn path).foldl
    (fun done name =>
      if name = "" ∨ name = "." then done
      else if name = ".." then done.dropLast
      else done ++ [name])
    []

/-- The tree of the given files; a file given twice has its last content. -/
def ofFiles (files : List (String × String)) (here : String) : FileTree where
  contents := files.reverse.map fun (path, content) => (simplified path, content)
  here := simplified here

def hasDirectory (tree : FileTree) (path : List String) : Bool :=
  path.isPrefixOf tree.here ||
    tree.contents.any fun (file, _) => path.isPrefixOf file && path.length < file.length

def at? (tree : FileTree) (path : List String) : Option Place :=
  match tree.contents.lookup path with
  | some content => some (.file content)
  | none => if tree.hasDirectory path then some (.directory path) else none

/-- One name further. -/
def follow (tree : FileTree) (name : String) : Place → Except ReadError Place
  | .file _ => .error .notDirectory
  | .outside =>
    -- Above the top there is nothing but the top.
    if name = "" ∨ name = "." ∨ name = ".." then .ok .outside else .error .notFound
  | .directory path =>
    if name = "" ∨ name = "." then .ok (.directory path)
    else if name = ".." then
      if path = [] then .ok .outside else .ok (.directory path.dropLast)
    else if maxName < name.utf8ByteSize then .error .nameTooLong
    else match tree.at? (path ++ [name]) with
      | some place => .ok place
      | none => .error .notFound

/-- Where a path leads. An absolute path starts outside. -/
def find (tree : FileTree) (path : String) : Except ReadError Place :=
  if path = "" then .error .notFound
  else if pathLimit ≤ path.utf8ByteSize then .error .nameTooLong
  else
    let start := if path.toList.head? = some '/' then .outside else .directory tree.here
    (namesIn path).foldlM (fun place name => tree.follow name place) start

def kind (tree : FileTree) (path : String) : Option FileKind :=
  match tree.find path with
  | .ok (.file _) => some .file
  | .ok (.directory _) | .ok .outside => some .directory
  | .error _ => none

def read (tree : FileTree) (path : String) : Except ReadError String :=
  match tree.find path with
  | .ok (.file content) => .ok content
  | .ok (.directory _) | .ok .outside => .error .isDirectory
  | .error failure => .error failure

def names (tree : FileTree) (path : String) : List String :=
  match tree.find path with
  | .ok (.directory path) =>
    let below := (tree.here :: tree.contents.map Prod.fst).filter path.isPrefixOf
    (below.filterMap fun file => (file.drop path.length).head?).eraseDups
  | _ => []

/-- As many steps up as the working directory is deep. -/
def above (tree : FileTree) : List String :=
  (List.range (tree.here.length + 1)).map fun steps => String.join (List.replicate steps "../")

def files (tree : FileTree) : Files Id where
  kind := tree.kind
  read := tree.read
  names := tree.names
  above := .ok tree.above

end FileTree

end VendorSql
