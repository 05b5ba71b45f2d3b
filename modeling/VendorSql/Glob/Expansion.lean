import VendorSql.Files
import VendorSql.Glob.Pattern

/-!
# Expanding path patterns

The files a pattern stands for are found by walking down from the directory where the pattern
starts. A part that is a mere name is looked up without listing the directory; for any other part
the names of the directory are tried in ascending order, so the result is in ascending order too
for each directory. A directory comes before what is in it.

Each step goes one part on in the pattern or one name down in the tree. No path is longer than the
limit of the file system, which bounds the number of steps.
-/
namespace VendorSql.Glob

variable {m : Type → Type} [Monad m]

def isHere (path : String) : Bool :=
  path.toList.head? == some '.' &&
    (Text.parts '/' path.toList).all fun name => name == [] || name == ['.']

def child (path name : String) : String :=
  if path = "" ∨ path.toList.getLast? = some '/' then path ++ name else path ++ "/" ++ name

/-- A name in a directory as a path; in the working directory the name is enough. -/
def shortChild (path name : String) : String :=
  if isHere path then name else child path name

/-- A path that belongs to the whole pattern, unless only directories are wanted and it is none. -/
def accepted (files : Files m) (directoriesOnly : Bool) (path : String) : m (List String) := do
  if directoriesOnly && !(← files.isDirectory path) then return [] else return [path]

mutual

/-- The paths below `path` that belong to the parts. -/
def below (files : Files m) (directoriesOnly : Bool) (fuel : Nat) (parts : List Part)
    (path : String) : m (List String) :=
  match fuel with
  | 0 => return []
  | fuel + 1 =>
    match parts with
    | [] => accepted files directoriesOnly path
    | .name name :: rest => do
      let next := shortChild path name
      -- The entries every directory has are there if it is a directory; other names are looked up.
      let present ← if name = "." ∨ name = ".." then files.isDirectory path
        else Option.isSome <$> files.kind next
      if present then below files directoriesOnly fuel rest next else return []
    | part :: rest => do
      if ← files.isDirectory path then
        let around ← part.pointNames.mapM fun name =>
          below files directoriesOnly fuel rest (child path name)
        let names := (← files.names path).mergeSort fun a b => !decide (b < a)
        let inside ← names.mapM fun name =>
          visit files directoriesOnly fuel part rest (shortChild path name) name
        return around.flatten ++ inside.flatten
      else return []

/-- The paths that belong to the parts from the entry `path` of a directory on, which is called
`name` there. -/
def visit (files : Files m) (directoriesOnly : Bool) (fuel : Nat) (part : Part) (rest : List Part)
    (path name : String) : m (List String) :=
  match fuel with
  | 0 => return []
  | fuel + 1 =>
    match part with
    | .directories => do
      let isDirectory ← files.isDirectory path
      -- Several such parts in a row are as good as one.
      match rest.dropWhile (· == .directories) with
      | [] =>
        if isDirectory then
          return path :: (← below files directoriesOnly fuel [.directories] path)
        else return []
      | next :: after => do
        -- No directory in between, or this one and then any number of others.
        let itself ← if next.holds name then below files directoriesOnly fuel after path
          else pure []
        let inside ← if isDirectory then
            below files directoriesOnly fuel (.directories :: next :: after) path
          else pure []
        return itself ++ inside
    | part =>
      if part.holds name then below files directoriesOnly fuel rest path else return []

end

/-- The longest chain of directories that a path can name. -/
def maxDepth : Nat := 4096

def expand (files : Files m) (pattern : Pattern) : m (List String) :=
  if pattern.parts = [] then return []
  else
    below files pattern.directoriesOnly (2 * (maxDepth + pattern.parts.length) + 2) pattern.parts
      (if pattern.rooted then "/" else ".")

/-- Whether a path is meant as a pattern. -/
def isPattern (path : String) : Bool :=
  path.toList.any fun c => c == '*' || c == '?'

end VendorSql.Glob
