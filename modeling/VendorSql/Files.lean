/-!
# Files

What the program needs from the place where it runs: to tell what a path leads to, to read a text,
to list a directory, and to find the directories above. The operations come together as one value,
so that a command is the same function on a disk and on files in memory.
-/
namespace VendorSql

/-- What a path can lead to. -/
inductive FileKind where
  | file
  | directory
  deriving Repr, DecidableEq

/-- Why no text could be read. -/
inductive ReadError where
  | notFound
  /-- Something on the way to the file is no directory. -/
  | notDirectory
  | isDirectory
  | nameTooLong
  /-- The bytes of the file are no text. -/
  | notText
  | other (text : String)
  deriving Repr, DecidableEq

def ReadError.message : ReadError → String
  | notFound => "No such file or directory (os error 2)"
  | notDirectory => "Not a directory (os error 20)"
  | isDirectory => "Is a directory (os error 21)"
  | nameTooLong => "File name too long (os error 36)"
  | notText => "stream did not contain valid UTF-8"
  | other text => text

/-- Access to files; the effects of using it are those of `m`. -/
structure Files (m : Type → Type) where
  /-- What a path leads to, if it leads anywhere. -/
  kind : String → m (Option FileKind)
  /-- The text of a file. -/
  read : String → m (Except ReadError String)
  /-- The names in a directory, in any order. -/
  names : String → m (List String)
  /-- The working directory and the directories above it, each as what stands before a name in it,
  or why the working directory is not known. -/
  above : m (Except ReadError (List String))

def Files.isDirectory {m : Type → Type} [Monad m] (files : Files m) (path : String) : m Bool := do
  return (← files.kind path) == some .directory

end VendorSql
